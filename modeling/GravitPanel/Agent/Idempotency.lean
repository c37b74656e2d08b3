import Mathlib.Data.List.AList
import Mathlib.Data.List.Sort
import Mathlib.Data.String.Basic

/-!
# The command result cache of the host agent

`agent/idempotency.go`: every command id is durably accepted before its side
effect may run, and its terminal result is kept so that a redelivered id is
answered without running again.  Go maps are association lists without
duplicate keys, the state file is the decoded value it holds, and each
`atomicWriteState` takes its outcome from the environment.
-/

namespace GravitPanel.Agent

/-- The `commandResultMessage` of `protocol.go`. -/
structure CommandResultMessage where
  type : String
  commandID : String
  output : String
  error : String
  deriving DecidableEq, Repr

def maxJournalCursorBytes : Nat := 4096

def commandStateVersion : Nat := 1

def cursorStateVersion : Nat := 1

def commandStatusAccepted : String := "accepted"

def commandStatusTerminal : String := "terminal"

def unknownOutcomeError : String :=
  "agent restarted before the command outcome was recorded; outcome unknown"

/-- The failure recorded for a command that was accepted but not finished when
the process stopped. -/
def unknownOutcome (commandID : String) : CommandResultMessage :=
  ⟨"command.failed", commandID, "", unknownOutcomeError⟩

/-- An in-flight command.  `done` names the channel that `complete` closes. -/
structure PendingCommandResult where
  done : Nat
  updatedAt : String
  deriving DecidableEq, Repr

structure PersistedCommandEntry where
  commandID : String
  status : String
  result : Option CommandResultMessage
  updatedAt : String
  deriving DecidableEq, Repr

structure PersistedCommandState where
  version : Nat
  bindingID : String
  commands : List PersistedCommandEntry
  deriving DecidableEq, Repr

structure PersistedCursorState where
  version : Nat
  bindingID : String
  cursor : String
  deriving DecidableEq, Repr

abbrev ResultMap := AList fun _ : String => CommandResultMessage

abbrev PendingMap := AList fun _ : String => PendingCommandResult

structure CommandResultCache where
  limit : Nat
  bindingID : String
  statePath : String
  cursorPath : String
  cursor : String
  completed : ResultMap
  order : List String
  pending : PendingMap
  /-- The results handed to waiters through closed `done` channels. -/
  closed : List (Nat × CommandResultMessage)

def makeCommandResultCache
    (limit : Nat) (bindingID statePath : String) : CommandResultCache where
  limit := max 1 limit
  bindingID := bindingID
  statePath := statePath
  cursorPath := ""
  cursor := ""
  completed := ∅
  order := []
  pending := ∅
  closed := []

/-- How one `atomicWriteState` ends: everything reached the disk, or an error
was returned before the rename (the old file stays) or after it (only the
directory could not be opened or synchronised, the new file is in place). -/
inductive WriteOutcome where
  | written
  | failed (renamed : Bool) (cause : String)
  deriving DecidableEq, Repr

/-- The write put its data in place. -/
def WriteOutcome.reachesDisk : WriteOutcome → Bool
  | .written => true
  | .failed renamed _ => renamed

def atomicWriteState {File : Type}
    (outcome : WriteOutcome) (onDisk : Option File) (data : File) :
    Option File × Option String :=
  match outcome with
  | .written => (some data, none)
  | .failed true cause => (some data, some cause)
  | .failed false cause => (onDisk, some cause)

namespace CommandResultCache

/-- The keys of `pending` in the order of `sort.Strings`. -/
def pendingIDs (cache : CommandResultCache) : List String :=
  cache.pending.keys.insertionSort (· ≤ ·)

def terminalEntry
    (cache : CommandResultCache) (now commandID : String) :
    PersistedCommandEntry :=
  ⟨commandID, commandStatusTerminal,
    some ((cache.completed.lookup commandID).getD ⟨"", "", "", ""⟩), now⟩

def acceptedEntry
    (cache : CommandResultCache) (commandID : String) :
    PersistedCommandEntry :=
  ⟨commandID, commandStatusAccepted, none,
    ((cache.pending.lookup commandID).map
      PendingCommandResult.updatedAt).getD ""⟩

/-- The value that `persistLocked` marshals. -/
def snapshot
    (cache : CommandResultCache) (now : String) : PersistedCommandState where
  version := commandStateVersion
  bindingID := cache.bindingID
  commands :=
    cache.order.map (cache.terminalEntry now) ++
      cache.pendingIDs.map cache.acceptedEntry

def persistLocked
    (cache : CommandResultCache) (now : String) (outcome : WriteOutcome)
    (onDisk : Option PersistedCommandState) :
    Option PersistedCommandState × Option String :=
  if cache.statePath = "" then
    (onDisk, none)
  else
    atomicWriteState outcome onDisk (cache.snapshot now)

/-- The four ways `begin` returns. -/
inductive BeginResult where
  | cached (result : CommandResultMessage)
  | waiting (pending : PendingCommandResult)
  | owner (pending : PendingCommandResult)
  | error (message : String)
  deriving DecidableEq, Repr

/-- The cache while a newly accepted command is being persisted. -/
def accept
    (cache : CommandResultCache) (commandID : String)
    (entry : PendingCommandResult) : CommandResultCache :=
  { cache with pending := cache.pending.insert commandID entry }

/-- The cache after acceptance could not be persisted. -/
def withdraw
    (cache : CommandResultCache) (commandID : String)
    (entry : PendingCommandResult) : CommandResultCache :=
  { cache with
    pending := (cache.pending.insert commandID entry).erase commandID }

/-- Durably record acceptance before granting execution ownership. -/
def begin
    (cache : CommandResultCache) (onDisk : Option PersistedCommandState)
    (commandID : String) (channel : Nat) (now : String)
    (outcome : WriteOutcome) :
    CommandResultCache × Option PersistedCommandState × BeginResult :=
  match cache.completed.lookup commandID with
  | some result => (cache, onDisk, .cached result)
  | none =>
      match cache.pending.lookup commandID with
      | some pending => (cache, onDisk, .waiting pending)
      | none =>
          let pending : PendingCommandResult := ⟨channel, now⟩
          match (cache.accept commandID pending).persistLocked now outcome
              onDisk with
          | (disk, some cause) =>
              (cache.withdraw commandID pending, disk,
                .error ("persist accepted command: " ++ cause))
          | (disk, none) =>
              (cache.accept commandID pending, disk, .owner pending)

/-- Drop the oldest results until at most `limit` ids remain. -/
def trimLoop (limit : Nat) :
    List String → ResultMap → List String × ResultMap
  | [], completed => ([], completed)
  | oldest :: rest, completed =>
      if limit < (oldest :: rest).length then
        trimLoop limit rest (completed.erase oldest)
      else
        (oldest :: rest, completed)

def trimLocked (cache : CommandResultCache) : CommandResultCache :=
  { cache with
    order := (trimLoop cache.limit cache.order cache.completed).1
    completed := (trimLoop cache.limit cache.order cache.completed).2 }

/-- The in-memory part of `complete`: the result replaces the pending entry. -/
def record
    (cache : CommandResultCache) (commandID : String)
    (result : CommandResultMessage) : CommandResultCache :=
  trimLocked
    { cache with
      pending := cache.pending.erase commandID
      closed :=
        match cache.pending.lookup commandID with
        | some pending => (pending.done, result) :: cache.closed
        | none => cache.closed
      order :=
        if (cache.completed.lookup commandID).isSome then
          cache.order
        else
          cache.order ++ [commandID]
      completed := cache.completed.insert commandID result }

def complete
    (cache : CommandResultCache) (onDisk : Option PersistedCommandState)
    (commandID : String) (result : CommandResultMessage)
    (now : String) (outcome : WriteOutcome) :
    CommandResultCache × Option PersistedCommandState × Option String :=
  let recorded := cache.record commandID result
  match recorded.persistLocked now outcome onDisk with
  | (disk, some cause) =>
      (recorded, disk, some ("persist terminal command: " ++ cause))
  | (disk, none) => (recorded, disk, none)

/-- `pending.wait`: the result, once the channel is closed. -/
def wait
    (cache : CommandResultCache) (pending : PendingCommandResult) :
    Option CommandResultMessage :=
  cache.closed.lookup pending.done

/-- Why `load` refuses a decoded state file. -/
inductive LoadError where
  | unsupportedVersion (version : Nat)
  | bindingMismatch (found expected : String)
  | emptyCommandID
  | duplicateCommandID (commandID : String)
  | invalidTerminalResult (commandID : String)
  | invalidStatus (status : String)
  deriving DecidableEq, Repr

/-- The result that `load` takes from one entry. -/
def loadResult (entry : PersistedCommandEntry) :
    Except LoadError CommandResultMessage :=
  if entry.status = commandStatusAccepted then
    .ok (unknownOutcome entry.commandID)
  else if entry.status = commandStatusTerminal then
    match entry.result with
    | none => .error (.invalidTerminalResult entry.commandID)
    | some result =>
        if result.commandID ≠ entry.commandID ∨
            (result.type ≠ "command.completed" ∧
              result.type ≠ "command.failed") then
          .error (.invalidTerminalResult entry.commandID)
        else
          .ok result
  else
    .error (.invalidStatus entry.status)

/-- The loop over `state.Commands`; `order` doubles as the set `seen`. -/
def loadEntries :
    List PersistedCommandEntry → List String → ResultMap →
      Except LoadError (List String × ResultMap)
  | [], order, completed => .ok (order, completed)
  | entry :: rest, order, completed =>
      if entry.commandID = "" then
        .error .emptyCommandID
      else if entry.commandID ∈ order then
        .error (.duplicateCommandID entry.commandID)
      else
        match loadResult entry with
        | .error problem => .error problem
        | .ok result =>
            loadEntries rest (order ++ [entry.commandID])
              (completed.insert entry.commandID result)

/-- `load` on a new cache. -/
def load
    (cache : CommandResultCache) (onDisk : Option PersistedCommandState) :
    Except LoadError CommandResultCache :=
  match onDisk with
  | none => .ok cache
  | some state =>
      if state.version ≠ commandStateVersion then
        .error (.unsupportedVersion state.version)
      else if state.bindingID ≠ cache.bindingID then
        .error (.bindingMismatch state.bindingID cache.bindingID)
      else
        match loadEntries state.commands cache.order cache.completed with
        | .error problem => .error problem
        | .ok (order, completed) =>
            .ok (trimLocked
              { cache with order := order, completed := completed })

def persistCursorLocked
    (cache : CommandResultCache) (outcome : WriteOutcome)
    (onDisk : Option PersistedCursorState) :
    Option PersistedCursorState × Option String :=
  if cache.cursorPath = "" then
    (onDisk, none)
  else
    atomicWriteState outcome onDisk
      ⟨cursorStateVersion, cache.bindingID, cache.cursor⟩

/-- Move the cursor and persist it; the in-memory cursor is rolled back when
the write reports an error. -/
def saveJournalCursor
    (cache : CommandResultCache) (onDisk : Option PersistedCursorState)
    (cursor : String) (outcome : WriteOutcome) :
    CommandResultCache × Option PersistedCursorState × Option String :=
  if cursor = "" then
    (cache, onDisk, none)
  else if maxJournalCursorBytes < cursor.utf8ByteSize then
    (cache, onDisk, some "journal cursor exceeds 4096 bytes")
  else if cursor = cache.cursor then
    (cache, onDisk, none)
  else
    let moved := { cache with cursor := cursor }
    match moved.persistCursorLocked outcome onDisk with
    | (disk, some cause) =>
        ({ moved with cursor := cache.cursor }, disk,
          some ("persist journal cursor: " ++ cause))
    | (disk, none) => (moved, disk, none)

/-- Why `loadCursor` refuses a decoded cursor file. -/
inductive CursorLoadError where
  | unsupportedVersion (version : Nat)
  | bindingMismatch (found expected : String)
  | tooLong
  deriving DecidableEq, Repr

def loadCursor
    (cache : CommandResultCache) (onDisk : Option PersistedCursorState) :
    Except CursorLoadError CommandResultCache :=
  match onDisk with
  | none => .ok cache
  | some state =>
      if state.version ≠ cursorStateVersion then
        .error (.unsupportedVersion state.version)
      else if state.bindingID ≠ cache.bindingID then
        .error (.bindingMismatch state.bindingID cache.bindingID)
      else if maxJournalCursorBytes < state.cursor.utf8ByteSize then
        .error .tooLong
      else
        .ok { cache with cursor := state.cursor }

end CommandResultCache

/-- The ids that a decoded state file holds as accepted but not terminal. -/
def acceptedIDs (onDisk : Option PersistedCommandState) : List String :=
  match onDisk with
  | none => []
  | some state =>
      (state.commands.filter fun entry =>
        decide (entry.status = commandStatusAccepted)).map
          PersistedCommandEntry.commandID

structure StateFiles where
  commands : Option PersistedCommandState
  cursor : Option PersistedCursorState
  deriving DecidableEq, Repr

/-- Where a binding keeps its state: the directory and the hexadecimal digest
of the binding id. -/
structure StatePaths where
  stateDir : String
  digest : String
  deriving DecidableEq, Repr

def StatePaths.bindingStatePrefix (paths : StatePaths) : String :=
  "binding-" ++ paths.digest

def StatePaths.stateFilePath (paths : StatePaths) : String :=
  paths.stateDir ++ "/" ++ paths.bindingStatePrefix ++ ".json"

def StatePaths.cursorStateFilePath (paths : StatePaths) : String :=
  paths.stateDir ++ "/" ++ paths.bindingStatePrefix ++ ".cursor.json"

theorem StatePaths.stateFilePath_ne_empty (paths : StatePaths) :
    paths.stateFilePath ≠ "" := by
  simp [stateFilePath]

/-- The cache that `openCommandResultCache` loads the files into. -/
def emptyCommandResultCache
    (paths : StatePaths) (bindingID : String) (limit : Nat) :
    CommandResultCache :=
  { makeCommandResultCache limit bindingID paths.stateFilePath with
    cursorPath := paths.cursorStateFilePath }

/-- `openCommandResultCache`: load both files and write both back.  The cache
is absent when a step fails, and the process then does not start. -/
def openCommandResultCache
    (paths : StatePaths) (bindingID : String) (limit : Nat)
    (onDisk : StateFiles) (now : String)
    (commandsOutcome cursorOutcome : WriteOutcome) :
    Option CommandResultCache × StateFiles :=
  let cache := emptyCommandResultCache paths bindingID limit
  match cache.load onDisk.commands with
  | .error _ => (none, onDisk)
  | .ok loaded =>
      match loaded.loadCursor onDisk.cursor with
      | .error _ => (none, onDisk)
      | .ok opened =>
          match opened.persistLocked now commandsOutcome onDisk.commands with
          | (commands, some _) => (none, { onDisk with commands := commands })
          | (commands, none) =>
              match opened.persistCursorLocked cursorOutcome onDisk.cursor with
              | (cursor, some _) => (none, ⟨commands, cursor⟩)
              | (cursor, none) => (some opened, ⟨commands, cursor⟩)

end GravitPanel.Agent
