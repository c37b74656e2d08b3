import Mathlib.Logic.Function.Basic
import Mathlib.Data.List.Nodup
import GravitPanel.Core.Execution
import GravitPanel.Core.Program

/-!
# Downloading the assets of a Minecraft version

`ensureAssets` of `minecraft-assets.service.ts` from the download of the asset
index on.  The workers take objects from one list, each of their steps is an
event, and the steps of all workers may come in any order.
-/

namespace GravitPanel.Clients.Assets

open Execution

/-- A value of `objects`.  A field of another type, and a size that is no
integer, is absent. -/
structure AssetEntry where
  hash : Option String
  size : Option Int
  deriving DecidableEq, Repr

structure AssetObject where
  hash : String
  size : Nat
  deriving DecidableEq, Repr

def maximumAssetBytes : Nat := 128 * 1024 * 1024

def downloadConcurrency : Nat := 6

/-- `/^[a-f0-9]{40}$/`. -/
def sha1Pattern (hash : String) : Bool :=
  hash.toList.length = 40 && hash.toList.all fun character =>
    ('a' ≤ character && character ≤ 'f') ||
      ('0' ≤ character && character ≤ '9')

def invalidObject : String := "Minecraft asset index contains an invalid object"

def assetObject (entry : AssetEntry) : Except String AssetObject :=
  match entry.hash, entry.size with
  | some hash, some (.ofNat size) =>
      if sha1Pattern hash && size ≤ maximumAssetBytes then .ok ⟨hash, size⟩
      else .error invalidObject
  | _, _ => .error invalidObject

/-- `map.set(hash, object)`: an earlier object keeps its place. -/
def setObject (objects : List AssetObject) (object : AssetObject) :
    List AssetObject :=
  if object.hash ∈ objects.map AssetObject.hash then
    objects.map fun other =>
      if other.hash = object.hash then object else other
  else objects ++ [object]

def assetObjects (entries : List AssetEntry) :
    Except String (List AssetObject) := do
  let values ← entries.mapM assetObject
  .ok (values.foldl setObject [])

section Objects

variable {objects : List AssetObject} {object other : AssetObject}

theorem mem_setObject (member : other ∈ setObject objects object) :
    other = object ∨ other ∈ objects := by
  unfold setObject at member
  split at member
  · obtain ⟨earlier, present, shape⟩ := List.mem_map.mp member
    split at shape
    · exact .inl shape.symm
    · exact .inr (shape ▸ present)
  · rcases List.mem_append.mp member with earlier | latest
    · exact .inr earlier
    · exact .inl (List.mem_singleton.mp latest)

theorem hashes_setObject :
    (setObject objects object).map AssetObject.hash =
      if object.hash ∈ objects.map AssetObject.hash then
        objects.map AssetObject.hash
      else objects.map AssetObject.hash ++ [object.hash] := by
  unfold setObject
  split
  · rw [List.map_map]
    apply List.map_congr_left
    intro other _
    rw [Function.comp_apply]
    split
    next same => exact same.symm
    · rfl
  · exact List.map_append

theorem setObject_distinct
    (distinct : (objects.map AssetObject.hash).Nodup) :
    ((setObject objects object).map AssetObject.hash).Nodup := by
  rw [hashes_setObject]
  split
  · exact distinct
  next absent =>
    rw [← List.concat_eq_append]
    exact distinct.concat absent

theorem hash_mem_setObject {hash : String} :
    hash ∈ (setObject objects object).map AssetObject.hash ↔
      hash = object.hash ∨ hash ∈ objects.map AssetObject.hash := by
  rw [hashes_setObject]
  split
  next present =>
    constructor
    · exact .inr
    · rintro (rfl | member)
      · exact present
      · exact member
  · rw [List.mem_append, List.mem_singleton, or_comm]

theorem foldl_setObject (values objects : List AssetObject)
    (distinct : (objects.map AssetObject.hash).Nodup) :
    ((values.foldl setObject objects).map AssetObject.hash).Nodup ∧
      (∀ object ∈ values.foldl setObject objects,
        object ∈ objects ∨ object ∈ values) ∧
      ∀ hash, hash ∈ objects.map AssetObject.hash ∨
        hash ∈ values.map AssetObject.hash →
          hash ∈ (values.foldl setObject objects).map AssetObject.hash := by
  induction values generalizing objects with
  | nil =>
      refine ⟨distinct, fun _ member => .inl member, ?_⟩
      rintro hash (member | none)
      · exact member
      · exact absurd none List.not_mem_nil
  | cons first rest ih =>
      obtain ⟨kept, origin, covered⟩ := ih
        (setObject objects first) (setObject_distinct distinct)
      refine ⟨kept, ?_, ?_⟩
      · intro object member
        rcases origin object member with begun | later
        · rcases mem_setObject begun with rfl | earlier
          · exact .inr List.mem_cons_self
          · exact .inl earlier
        · exact .inr (List.mem_cons_of_mem _ later)
      · rintro hash (member | member)
        · exact covered hash (.inl (hash_mem_setObject.mpr (.inr member)))
        · rcases List.mem_cons.mp member with same | later
          · exact covered hash (.inl (hash_mem_setObject.mpr (.inl same)))
          · exact covered hash (.inr later)

end Objects

theorem mapM_assetObject {entries : List AssetEntry}
    {values : List AssetObject}
    (checked : entries.mapM assetObject = .ok values) :
    (∀ entry ∈ entries, ∃ object ∈ values, assetObject entry = .ok object) ∧
      ∀ object ∈ values, ∃ entry ∈ entries,
        assetObject entry = .ok object := by
  induction entries generalizing values with
  | nil =>
      cases checked
      exact ⟨fun _ none => absurd none List.not_mem_nil,
        fun _ none => absurd none List.not_mem_nil⟩
  | cons entry rest ih =>
      rw [List.mapM_cons] at checked
      obtain ⟨object, here, checked⟩ := Program.outcome_bind_eq_ok.mp checked
      obtain ⟨others, later, done⟩ := Program.outcome_bind_eq_ok.mp checked
      cases done
      obtain ⟨covered, origin⟩ := ih later
      constructor
      · intro other member
        rcases List.mem_cons.mp member with rfl | further
        · exact ⟨object, List.mem_cons_self, here⟩
        · obtain ⟨value, inside, same⟩ := covered other further
          exact ⟨value, List.mem_cons_of_mem _ inside, same⟩
      · intro value member
        rcases List.mem_cons.mp member with rfl | further
        · exact ⟨entry, List.mem_cons_self, here⟩
        · obtain ⟨other, inside, same⟩ := origin value further
          exact ⟨other, List.mem_cons_of_mem _ inside, same⟩

theorem assetObject_eq_ok {entry : AssetEntry} {object : AssetObject}
    (checked : assetObject entry = .ok object) :
    entry = ⟨some object.hash, some object.size⟩ := by
  obtain ⟨hash, size⟩ := entry
  unfold assetObject at checked
  split at checked
  next hash size found present =>
    split at checked
    · cases checked
      cases found
      cases present
      rfl
    · cases checked
  · cases checked

def EqualSizes (entries : List AssetEntry) : Prop :=
  ∀ first ∈ entries, ∀ second ∈ entries,
    first.hash = second.hash → first.size = second.size

/-- There is one object for each hash, and for each entry of an index with
equal sizes. -/
theorem assetObjects_spec {entries : List AssetEntry}
    {objects : List AssetObject}
    (collected : assetObjects entries = .ok objects) :
    (objects.map AssetObject.hash).Nodup ∧
      (EqualSizes entries → ∀ entry ∈ entries, ∃ object ∈ objects,
        entry = ⟨some object.hash, some object.size⟩) := by
  obtain ⟨values, checked, done⟩ := Program.outcome_bind_eq_ok.mp collected
  cases done
  obtain ⟨covered, origin⟩ := mapM_assetObject checked
  obtain ⟨distinct, taken, hashes⟩ :=
    foldl_setObject values [] List.nodup_nil
  refine ⟨distinct, fun equal entry member => ?_⟩
  obtain ⟨value, inside, here⟩ := covered entry member
  obtain ⟨object, kept, same⟩ := List.mem_map.mp (hashes value.hash
    (.inr (List.mem_map.mpr ⟨value, inside, rfl⟩)))
  refine ⟨object, kept, ?_⟩
  rcases taken object kept with none | own
  · exact absurd none List.not_mem_nil
  · obtain ⟨other, otherMember, there⟩ := origin object own
    have first := assetObject_eq_ok here
    have second := assetObject_eq_ok there
    have sizes := equal entry member other otherMember
      (by rw [first, second, same])
    rw [first, second] at sizes
    rw [first, same, Option.some.inj sizes]

inductive ObjectFile where
  | file (bytes : List UInt8)
  | directory
  | special
  deriving DecidableEq, Repr

inductive WorkerStage where
  | looping
  | inspecting (object : AssetObject)
  | hashing (object : AssetObject)
  | downloading (object : AssetObject) (attempt : Nat)
  | preparing (object : AssetObject) (bytes : List UInt8)
  | moving (object : AssetObject) (bytes : List UInt8)
  | counting
  | finished
  | rejected (problem : String)
  deriving DecidableEq, Repr

inductive MainStage where
  | fetching
  | waiting (indexBytes : List UInt8)
  | publishing (indexBytes : List UInt8)
  | reporting
  | returned
  | threw (problem : String)
  deriving DecidableEq, Repr

/-- The digest in hexadecimal, and the values of `objects` in the bytes of an
index. -/
structure AssetHost where
  sha1 : List UInt8 → String
  parse : List UInt8 → Except String (List AssetEntry)

/-- The object files by their hashes, the list that the workers share, and the
index file once this call has written it. -/
structure AssetSync where
  files : String → Option ObjectFile
  objects : List AssetObject
  total : Nat
  completed : Nat
  reused : Nat
  workers : List WorkerStage
  aborted : Bool
  main : MainStage
  index : Option (List UInt8)

def startSync (files : String → Option ObjectFile) : AssetSync where
  files := files
  objects := []
  total := 0
  completed := 0
  reused := 0
  workers := []
  aborted := false
  main := .fetching
  index := none

/-- What a worker waits for; a problem is an error of that operation. -/
inductive WorkerEvent where
  | next
  | inspected (problem : Option String)
  | hashed (problem : Option String)
  | answered (answer : Except String (List UInt8))
  | prepared (problem : Option String)
  | renamed (problem : Option String)
  | counted (problem : Option String)

inductive AssetEvent where
  | abort
  | indexFetched (answer : Except String (List UInt8))
  | worker (number : Nat) (event : WorkerEvent)
  | settled
  | indexWritten (problem : Option String)
  | logged (problem : Option String)

section Steps

variable (host : AssetHost)

def takeObject (sync : AssetSync) : AssetSync × WorkerStage :=
  if sync.aborted then (sync, .rejected "Job cancelled by user")
  else
    match sync.objects.getLast? with
    | none => (sync, .finished)
    | some object =>
        ({ sync with objects := sync.objects.dropLast }, .inspecting object)

/-- `existingFileMatches` up to the size. -/
def inspectObject (sync : AssetSync) (object : AssetObject) :
    AssetSync × WorkerStage :=
  match sync.files object.hash with
  | some (.file bytes) =>
      if bytes.length = object.size then (sync, .hashing object)
      else (sync, .downloading object 1)
  | _ => (sync, .downloading object 1)

def hashObject (sync : AssetSync) (object : AssetObject) :
    AssetSync × WorkerStage :=
  match sync.files object.hash with
  | some (.file bytes) =>
      if host.sha1 bytes = object.hash then
        ({ sync with reused := sync.reused + 1 }, .counting)
      else (sync, .downloading object 1)
  | _ => (sync, .downloading object 1)

/-- A failed attempt of `fetchBytes`. -/
def retryDownload
    (sync : AssetSync) (object : AssetObject) (attempt : Nat)
    (problem : String) : AssetSync × WorkerStage :=
  if sync.aborted then (sync, .rejected "Job cancelled by user")
  else if attempt < 3 then (sync, .downloading object (attempt + 1))
  else (sync, .rejected problem)

def receiveObject
    (sync : AssetSync) (object : AssetObject) (attempt : Nat)
    (bytes : List UInt8) : AssetSync × WorkerStage :=
  if max object.size 1 < bytes.length then
    retryDownload sync object attempt "response exceeds the size"
  else if bytes.length ≠ object.size ∨ host.sha1 bytes ≠ object.hash then
    (sync, .rejected ("Minecraft asset " ++ object.hash ++
      " failed size or SHA-1 verification"))
  else (sync, .preparing object bytes)

/-- The `rename` of `writeAtomic`, which replaces no directory. -/
def renameObject
    (sync : AssetSync) (object : AssetObject) (bytes : List UInt8) :
    AssetSync × WorkerStage :=
  if sync.files object.hash = some .directory then
    (sync, .rejected "EISDIR: illegal operation on a directory, rename")
  else
    ({ sync with
      files := Function.update sync.files object.hash (some (.file bytes)) },
      .counting)

def countObject (sync : AssetSync) (problem : Option String) :
    AssetSync × WorkerStage :=
  let counted := { sync with completed := sync.completed + 1 }
  if counted.completed % 25 = 0 ∨ counted.completed = counted.total then
    if counted.aborted then (counted, .rejected "Job cancelled by user")
    else
      match problem with
      | some problem => (counted, .rejected problem)
      | none => (counted, .looping)
  else (counted, .looping)

/-- What a worker does when the operation that it waits for is over. -/
def advance (sync : AssetSync) :
    WorkerStage → WorkerEvent → Option (AssetSync × WorkerStage)
  | .looping, .next => some (takeObject sync)
  | .inspecting _, .inspected (some problem) =>
      some (sync, .rejected problem)
  | .inspecting object, .inspected none => some (inspectObject sync object)
  | .hashing _, .hashed (some problem) => some (sync, .rejected problem)
  | .hashing object, .hashed none => some (hashObject host sync object)
  | .downloading object attempt, .answered (.error problem) =>
      some (retryDownload sync object attempt problem)
  | .downloading object attempt, .answered (.ok bytes) =>
      some (receiveObject host sync object attempt bytes)
  | .preparing _ _, .prepared (some problem) =>
      some (sync, .rejected problem)
  | .preparing object bytes, .prepared none =>
      some (sync, .moving object bytes)
  | .moving _ _, .renamed (some problem) => some (sync, .rejected problem)
  | .moving object bytes, .renamed none =>
      some (renameObject sync object bytes)
  | .counting, .counted problem => some (countObject sync problem)
  | _, _ => none

def rejection : WorkerStage → Option String
  | .rejected problem => some problem
  | _ => none

/-- The objects of an index, and the workers that take them. -/
def beginWorkers (sync : AssetSync) (indexBytes : List UInt8) : AssetSync :=
  match host.parse indexBytes >>= assetObjects with
  | .error problem => { sync with main := .threw problem }
  | .ok objects =>
      if sync.aborted then
        { sync with main := .threw "Job cancelled by user" }
      else
        { sync with
          objects, total := objects.length
          workers := List.replicate
            (min downloadConcurrency (max 1 objects.length)) .looping
          main := .waiting indexBytes }

/-- `Promise.all`: rejected with the first worker, or fulfilled after all. -/
def settleWorkers (sync : AssetSync) (indexBytes : List UInt8) :
    Option AssetSync :=
  match sync.workers.findSome? rejection with
  | some problem => some { sync with main := .threw problem }
  | none =>
      if sync.workers.all (· = .finished) then
        some { sync with main := .publishing indexBytes }
      else none

def assetStep (sync : AssetSync) : AssetEvent → Option AssetSync
  | .abort => some { sync with aborted := true }
  | .indexFetched answer =>
      match sync.main, answer with
      | .fetching, .error problem => some { sync with main := .threw problem }
      | .fetching, .ok indexBytes => some (beginWorkers host sync indexBytes)
      | _, _ => none
  | .worker number event =>
      match sync.workers[number]? with
      | none => none
      | some stage =>
          (advance host sync stage event).map fun result =>
            { result.1 with workers := sync.workers.set number result.2 }
  | .settled =>
      match sync.main with
      | .waiting indexBytes => settleWorkers sync indexBytes
      | _ => none
  | .indexWritten problem =>
      match sync.main, problem with
      | .publishing _, some problem => some { sync with main := .threw problem }
      | .publishing indexBytes, none =>
          some { sync with main := .reporting, index := some indexBytes }
      | _, _ => none
  | .logged problem =>
      match sync.main with
      | .reporting =>
          if sync.aborted then
            some { sync with main := .threw "Job cancelled by user" }
          else
            match problem with
            | some problem => some { sync with main := .threw problem }
            | none => some { sync with main := .returned }
      | _ => none

def syncStep (sync : AssetSync) (event : AssetEvent) :
    Option (AssetSync × List Empty) :=
  (assetStep host sync event).map fun next => (next, [])

end Steps

def WorkerStage.object? : WorkerStage → Option AssetObject
  | .inspecting object => some object
  | .hashing object => some object
  | .downloading object _ => some object
  | .preparing object _ => some object
  | .moving object _ => some object
  | _ => none

def Verified (host : AssetHost) (object : AssetObject)
    (bytes : List UInt8) : Prop :=
  bytes.length = object.size ∧ host.sha1 bytes = object.hash

/-- The file of an object has its size and its digest. -/
def Complete (host : AssetHost) (files : String → Option ObjectFile)
    (object : AssetObject) : Prop :=
  ∃ bytes, files object.hash = some (.file bytes) ∧
    Verified host object bytes

/-- What a worker has checked before its next operation. -/
def Sound (host : AssetHost) (files : String → Option ObjectFile) :
    WorkerStage → Prop
  | .hashing object => ∃ bytes,
      files object.hash = some (.file bytes) ∧ bytes.length = object.size
  | .preparing object bytes => Verified host object bytes
  | .moving object bytes => Verified host object bytes
  | _ => True

/-- A worker keeps its object until the file is complete or it is rejected, and
writes nothing but verified bytes to the file of its object. -/
structure Advances (host : AssetHost) (sync : AssetSync)
    (stage : WorkerStage) (next : AssetSync) (after : WorkerStage) :
    Prop where
  keeps : ∀ object, stage.object? = some object →
    after.object? = some object ∨ Complete host next.files object ∨
      (rejection after).isSome
  takes : ∀ object ∈ sync.objects,
    object ∈ next.objects ∨ after.object? = some object
  origin : ∀ object, after.object? = some object →
    stage.object? = some object ∨ object ∈ sync.objects
  shrinks : next.objects ⊆ sync.objects
  files : next.files = sync.files ∨ ∃ object bytes,
    stage.object? = some object ∧ Verified host object bytes ∧
      next.files = Function.update sync.files object.hash
        (some (.file bytes))
  sound : Sound host next.files after
  drained : after = .finished → next.objects = []
  main : next.main = sync.main
  index : next.index = sync.index

section Advance

variable {host : AssetHost} {sync next : AssetSync}
variable {stage after : WorkerStage} {object : AssetObject}
variable {bytes : List UInt8}

theorem advances_rejected (problem : String) :
    Advances host sync stage sync (.rejected problem) where
  keeps := fun _ _ => .inr (.inr rfl)
  takes := fun _ member => .inl member
  origin := by
    intro object none
    cases none
  shrinks := fun _ member => member
  files := .inl rfl
  sound := trivial
  drained := by
    intro none
    cases none
  main := rfl
  index := rfl

theorem advances_same (same : after.object? = some object)
    (held : stage.object? = some object)
    (sound : Sound host sync.files after) :
    Advances host sync stage sync after where
  keeps := by
    intro other own
    rw [held] at own
    exact .inl (same.trans own)
  takes := fun _ member => .inl member
  origin := by
    intro other own
    rw [same] at own
    exact .inl (held.trans own)
  shrinks := fun _ member => member
  files := .inl rfl
  sound := sound
  drained := by
    rintro rfl
    cases same
  main := rfl
  index := rfl

theorem advances_free (free : after.object? = none)
    (open_ : stage.object? = none) (objects : next.objects = sync.objects)
    (files : next.files = sync.files) (main : next.main = sync.main)
    (index : next.index = sync.index) (sound : Sound host next.files after)
    (drained : after = .finished → sync.objects = []) :
    Advances host sync stage next after where
  keeps := by
    intro other own
    rw [open_] at own
    cases own
  takes := by
    intro other member
    rw [objects]
    exact .inl member
  origin := by
    intro other own
    rw [free] at own
    cases own
  shrinks := by
    rw [objects]
    exact fun _ member => member
  files := .inl files
  sound := sound
  drained := by
    rw [objects]
    exact drained
  main := main
  index := index

theorem advances_done (held : stage.object? = some object)
    (complete : Complete host next.files object)
    (files : next.files = sync.files ∨ ∃ bytes,
      Verified host object bytes ∧ next.files =
        Function.update sync.files object.hash (some (.file bytes)))
    (objects : next.objects = sync.objects) (main : next.main = sync.main)
    (index : next.index = sync.index) :
    Advances host sync stage next .counting where
  keeps := by
    intro other own
    rw [held] at own
    cases own
    exact .inr (.inl complete)
  takes := by
    intro other member
    rw [objects]
    exact .inl member
  origin := by
    intro other own
    cases own
  shrinks := by
    rw [objects]
    exact fun _ member => member
  files := files.imp_right fun written => by
    obtain ⟨bytes, verified, same⟩ := written
    exact ⟨object, bytes, held, verified, same⟩
  sound := trivial
  drained := by
    intro none
    cases none
  main := main
  index := index

theorem takeObject_advances :
    Advances host sync .looping (takeObject sync).1 (takeObject sync).2 := by
  unfold takeObject
  cases sync.aborted with
  | true => exact advances_rejected _
  | false =>
      rw [if_neg Bool.false_ne_true]
      cases last : sync.objects.getLast? with
      | none =>
          exact advances_free rfl rfl rfl rfl rfl rfl trivial
            fun _ => List.getLast?_eq_none_iff.mp last
      | some object =>
          obtain ⟨before, shape⟩ := List.getLast?_eq_some_iff.mp last
          dsimp only
          rw [shape, List.dropLast_concat]
          constructor
          · intro other own
            cases own
          · intro other member
            rw [shape] at member
            rcases List.mem_append.mp member with earlier | taken
            · exact .inl earlier
            · rw [List.mem_singleton.mp taken]
              exact .inr rfl
          · intro other own
            cases own
            rw [shape]
            exact .inr (List.mem_append_right _ (List.mem_singleton_self _))
          · show before ⊆ sync.objects
            rw [shape]
            exact List.subset_append_left _ _
          · exact .inl rfl
          · trivial
          · intro none
            cases none
          · rfl
          · rfl

theorem inspectObject_advances :
    Advances host sync (.inspecting object) (inspectObject sync object).1
      (inspectObject sync object).2 := by
  unfold inspectObject
  split
  next bytes present =>
    split
    next size => exact advances_same rfl rfl ⟨bytes, present, size⟩
    · exact advances_same rfl rfl trivial
  · exact advances_same rfl rfl trivial

theorem hashObject_advances
    (sound : Sound host sync.files (.hashing object)) :
    Advances host sync (.hashing object) (hashObject host sync object).1
      (hashObject host sync object).2 := by
  obtain ⟨bytes, present, size⟩ := sound
  rw [hashObject, present]
  dsimp only
  split
  next digest =>
    exact advances_done rfl ⟨bytes, present, size, digest⟩ (.inl rfl) rfl rfl
      rfl
  · exact advances_same rfl rfl trivial

theorem retryDownload_advances (attempt : Nat) (problem : String) :
    Advances host sync (.downloading object attempt)
      (retryDownload sync object attempt problem).1
      (retryDownload sync object attempt problem).2 := by
  unfold retryDownload
  split
  · exact advances_rejected _
  · split
    · exact advances_same rfl rfl trivial
    · exact advances_rejected _

theorem receiveObject_advances (attempt : Nat) :
    Advances host sync (.downloading object attempt)
      (receiveObject host sync object attempt bytes).1
      (receiveObject host sync object attempt bytes).2 := by
  unfold receiveObject
  split
  · exact retryDownload_advances _ _
  · split
    · exact advances_rejected _
    next verified =>
      rw [not_or, not_not, not_not] at verified
      exact advances_same rfl rfl verified

theorem renameObject_advances
    (sound : Sound host sync.files (.moving object bytes)) :
    Advances host sync (.moving object bytes)
      (renameObject sync object bytes).1
      (renameObject sync object bytes).2 := by
  unfold renameObject
  split
  · exact advances_rejected _
  · refine advances_done rfl ⟨bytes, ?_, sound⟩ (.inr ⟨bytes, sound, rfl⟩)
      rfl rfl rfl
    exact Function.update_self ..

theorem countObject_advances (problem : Option String) :
    Advances host sync .counting (countObject sync problem).1
      (countObject sync problem).2 := by
  have rejected : ∀ problem, Advances host sync .counting
      { sync with completed := sync.completed + 1 } (.rejected problem) := by
    intro problem
    refine advances_free rfl rfl rfl rfl rfl rfl trivial fun none => ?_
    cases none
  have loops : Advances host sync .counting
      { sync with completed := sync.completed + 1 } .looping := by
    refine advances_free rfl rfl rfl rfl rfl rfl trivial fun none => ?_
    cases none
  unfold countObject
  dsimp only
  split
  · split
    · exact rejected _
    · cases problem with
      | none => exact loops
      | some problem => exact rejected _
  · exact loops

theorem advance_advances {event : WorkerEvent}
    {result : AssetSync × WorkerStage}
    (sound : Sound host sync.files stage)
    (step : advance host sync stage event = some result) :
    Advances host sync stage result.1 result.2 := by
  cases stage with
  | looping =>
      cases event <;> cases step
      exact takeObject_advances
  | inspecting object =>
      cases event with
      | inspected problem =>
          cases problem <;> cases step
          · exact inspectObject_advances
          · exact advances_rejected _
      | _ => cases step
  | hashing object =>
      cases event with
      | hashed problem =>
          cases problem <;> cases step
          · exact hashObject_advances sound
          · exact advances_rejected _
      | _ => cases step
  | downloading object attempt =>
      cases event with
      | answered answer =>
          cases answer <;> cases step
          · exact retryDownload_advances _ _
          · exact receiveObject_advances _
      | _ => cases step
  | preparing object bytes =>
      cases event with
      | prepared problem =>
          cases problem <;> cases step
          · exact advances_same rfl rfl sound
          · exact advances_rejected _
      | _ => cases step
  | moving object bytes =>
      cases event with
      | renamed problem =>
          cases problem <;> cases step
          · exact renameObject_advances sound
          · exact advances_rejected _
      | _ => cases step
  | counting =>
      cases event <;> cases step
      exact countObject_advances _
  | finished => cases event <;> cases step
  | rejected problem => cases event <;> cases step

end Advance

/-! ## What holds of the workers together -/

/-- Every object is still in the list, with a worker, or complete, unless a
worker was rejected. -/
structure Covers (host : AssetHost) (all : List AssetObject)
    (files : String → Option ObjectFile) (objects : List AssetObject)
    (workers : List WorkerStage) : Prop where
  distinct : (all.map AssetObject.hash).Nodup
  accounted : (∃ stage ∈ workers, (rejection stage).isSome) ∨
    ∀ object ∈ all, object ∈ objects ∨
      (∃ stage ∈ workers, stage.object? = some object) ∨
        Complete host files object
  queued : objects ⊆ all
  held : ∀ stage ∈ workers, ∀ object,
    stage.object? = some object → object ∈ all
  sound : ∀ stage ∈ workers, Sound host files stage
  drained : .finished ∈ workers → objects = []
  staffed : workers ≠ []

section Together

variable {host : AssetHost} {all : List AssetObject}
variable {files : String → Option ObjectFile}
variable {object other : AssetObject} {bytes : List UInt8}

theorem eq_of_hash (distinct : (all.map AssetObject.hash).Nodup)
    (member : object ∈ all) (otherMember : other ∈ all)
    (same : object.hash = other.hash) : object = other :=
  List.inj_on_of_nodup_map distinct member otherMember same

theorem complete_update (distinct : (all.map AssetObject.hash).Nodup)
    (member : object ∈ all) (otherMember : other ∈ all)
    (verified : Verified host other bytes)
    (complete : Complete host files object) :
    Complete host (Function.update files other.hash (some (.file bytes)))
      object := by
  by_cases same : object.hash = other.hash
  · cases eq_of_hash distinct member otherMember same
    exact ⟨bytes, Function.update_self .., verified⟩
  · obtain ⟨present, found, holds⟩ := complete
    refine ⟨present, ?_, holds⟩
    rw [Function.update_of_ne same]
    exact found

theorem sound_update (distinct : (all.map AssetObject.hash).Nodup)
    (otherMember : other ∈ all) (verified : Verified host other bytes)
    {stage : WorkerStage}
    (held : ∀ object, stage.object? = some object → object ∈ all)
    (sound : Sound host files stage) :
    Sound host (Function.update files other.hash (some (.file bytes)))
      stage := by
  cases stage with
  | hashing object =>
      by_cases same : object.hash = other.hash
      · cases eq_of_hash distinct (held object rfl) otherMember same
        exact ⟨bytes, Function.update_self .., verified.1⟩
      · obtain ⟨present, found, size⟩ := sound
        refine ⟨present, ?_, size⟩
        rw [Function.update_of_ne same]
        exact found
  | preparing object bytes => exact sound
  | moving object bytes => exact sound
  | _ => trivial

theorem mem_set_of_ne {workers : List WorkerStage} {number : Nat}
    {stage after worker : WorkerStage}
    (here : workers[number]? = some stage) (member : worker ∈ workers)
    (different : worker ≠ stage) : worker ∈ workers.set number after := by
  obtain ⟨place, found⟩ := List.mem_iff_getElem?.mp member
  have elsewhere : number ≠ place := by
    rintro rfl
    exact different (Option.some.inj (found.symm.trans here))
  apply List.mem_iff_getElem?.mpr
  refine ⟨place, ?_⟩
  rw [List.getElem?_set_ne elsewhere]
  exact found

theorem covers_advance {sync next : AssetSync} {number : Nat}
    {stage after : WorkerStage}
    (covers : Covers host all sync.files sync.objects sync.workers)
    (here : sync.workers[number]? = some stage)
    (going : rejection stage = none)
    (advances : Advances host sync stage next after) :
    Covers host all next.files next.objects
      (sync.workers.set number after) := by
  have present : stage ∈ sync.workers :=
    List.mem_iff_getElem?.mpr ⟨number, here⟩
  have placed : after ∈ sync.workers.set number after := by
    obtain ⟨bound, -⟩ := List.getElem?_eq_some_iff.mp here
    exact List.mem_set bound after
  have kept : ∀ object ∈ all, Complete host sync.files object →
      Complete host next.files object := by
    intro object member complete
    rcases advances.files with same | ⟨other, bytes, own, verified, same⟩
    · rw [same]
      exact complete
    · rw [same]
      exact complete_update covers.distinct member
        (covers.held stage present other own) verified complete
  constructor
  · exact covers.distinct
  · by_cases rejects : (rejection after).isSome
    · exact .inl ⟨after, placed, rejects⟩
    rcases covers.accounted with ⟨worker, member, rejected⟩ | every
    · refine .inl ⟨worker, mem_set_of_ne here member ?_, rejected⟩
      rintro rfl
      rw [going] at rejected
      cases rejected
    · refine .inr fun object member => ?_
      rcases every object member with waiting | ⟨worker, inside, own⟩ | done
      · rcases advances.takes object waiting with left | taken
        · exact .inl left
        · exact .inr (.inl ⟨after, placed, taken⟩)
      · by_cases same : worker = stage
        · rw [same] at own
          rcases advances.keeps object own with still | complete | problem
          · exact .inr (.inl ⟨after, placed, still⟩)
          · exact .inr (.inr complete)
          · exact absurd problem rejects
        · exact .inr (.inl
            ⟨worker, mem_set_of_ne here inside same, own⟩)
      · exact .inr (.inr (kept object member done))
  · exact fun object member => covers.queued (advances.shrinks member)
  · intro worker member object own
    rcases List.mem_or_eq_of_mem_set member with before | latest
    · exact covers.held worker before object own
    · rw [latest] at own
      rcases advances.origin object own with earlier | taken
      · exact covers.held stage present object earlier
      · exact covers.queued taken
  · intro worker member
    rcases List.mem_or_eq_of_mem_set member with before | latest
    · rcases advances.files with same | ⟨other, bytes, own, verified, same⟩
      · rw [same]
        exact covers.sound worker before
      · rw [same]
        exact sound_update covers.distinct
          (covers.held stage present other own) verified
          (covers.held worker before) (covers.sound worker before)
    · rw [latest]
      exact advances.sound
  · intro member
    rcases List.mem_or_eq_of_mem_set member with before | latest
    · have empty := covers.drained before
      have shrinks := advances.shrinks
      rw [empty] at shrinks
      exact List.subset_nil.mp shrinks
    · exact advances.drained latest.symm
  · intro empty
    rw [empty] at placed
    exact List.not_mem_nil placed

theorem advance_going {sync : AssetSync} {stage : WorkerStage}
    {event : WorkerEvent} {result : AssetSync × WorkerStage}
    (step : advance host sync stage event = some result) :
    rejection stage = none := by
  cases stage with
  | rejected problem => cases event <;> cases step
  | _ => rfl

theorem complete_of_finished {objects : List AssetObject}
    {workers : List WorkerStage}
    (covers : Covers host all files objects workers)
    (finished : ∀ stage ∈ workers, stage = .finished) :
    ∀ object ∈ all, Complete host files object := by
  obtain ⟨first, rest, shape⟩ := List.exists_cons_of_ne_nil covers.staffed
  have some : .finished ∈ workers := by
    have member : first ∈ workers := by
      rw [shape]
      exact List.mem_cons_self
    rw [← finished first member]
    exact member
  have empty := covers.drained some
  intro object member
  rcases covers.accounted with ⟨stage, inside, rejected⟩ | every
  · rw [finished stage inside] at rejected
    cases rejected
  · rcases every object member with waiting | ⟨stage, inside, own⟩ | done
    · rw [empty] at waiting
      exact absurd waiting List.not_mem_nil
    · rw [finished stage inside] at own
      cases own
    · exact done

end Together

/-- The objects that the bytes of an index list. -/
def Lists (host : AssetHost) (indexBytes : List UInt8)
    (all : List AssetObject) : Prop :=
  host.parse indexBytes >>= assetObjects = .ok all

/-- The objects of an index are complete, and nobody works on them. -/
def Published (host : AssetHost) (files : String → Option ObjectFile)
    (workers : List WorkerStage) (indexBytes : List UInt8) : Prop :=
  ∃ all, Lists host indexBytes all ∧
    (∀ object ∈ all, Complete host files object) ∧
      ∀ stage ∈ workers, stage = .finished

structure SyncInvariant (host : AssetHost) (sync : AssetSync) : Prop where
  fetching : sync.main = .fetching → sync.index = none
  working : sync.workers = [] ∨
    ∃ all, Covers host all sync.files sync.objects sync.workers
  waiting : ∀ indexBytes, sync.main = .waiting indexBytes →
    ∃ all, Lists host indexBytes all ∧
      Covers host all sync.files sync.objects sync.workers
  published : ∀ indexBytes, sync.main = .publishing indexBytes →
    Published host sync.files sync.workers indexBytes
  written : ∀ indexBytes, sync.index = some indexBytes →
    Published host sync.files sync.workers indexBytes
  reported : sync.main = .reporting ∨ sync.main = .returned →
    sync.index.isSome

section Call

variable {host : AssetHost} {sync next : AssetSync}

theorem startSync_invariant (files : String → Option ObjectFile) :
    SyncInvariant host (startSync files) where
  fetching := fun _ => rfl
  working := .inl rfl
  waiting := by
    intro indexBytes here
    cases here
  published := by
    intro indexBytes here
    cases here
  written := by
    intro indexBytes here
    cases here
  reported := by
    rintro (here | here) <;> cases here

theorem threw_invariant (invariant : SyncInvariant host sync)
    (problem : String) :
    SyncInvariant host { sync with main := .threw problem } where
  fetching := by
    intro here
    cases here
  working := invariant.working
  waiting := by
    intro indexBytes here
    cases here
  published := by
    intro indexBytes here
    cases here
  written := invariant.written
  reported := by
    rintro (here | here) <;> cases here

theorem finished_stays {stage : WorkerStage} {event : WorkerEvent}
    {indexBytes : List UInt8}
    (published : Published host sync.files sync.workers indexBytes)
    (present : stage ∈ sync.workers) :
    advance host sync stage event = none := by
  obtain ⟨-, -, -, finished⟩ := published
  rw [finished stage present]
  rfl

theorem worker_invariant {number : Nat} {stage : WorkerStage}
    {event : WorkerEvent} {result : AssetSync × WorkerStage}
    (invariant : SyncInvariant host sync)
    (here : sync.workers[number]? = some stage)
    (step : advance host sync stage event = some result) :
    SyncInvariant host
      { result.1 with workers := sync.workers.set number result.2 } := by
  have present : stage ∈ sync.workers :=
    List.mem_iff_getElem?.mpr ⟨number, here⟩
  have busy : ∀ indexBytes,
      ¬ Published host sync.files sync.workers indexBytes := by
    intro indexBytes published
    rw [finished_stays published present] at step
    cases step
  rcases invariant.working with none | ⟨all, covers⟩
  · rw [none] at present
    exact absurd present List.not_mem_nil
  have advances := advance_advances (covers.sound stage present) step
  have going := advance_going step
  have kept : ∀ {all}, Covers host all sync.files sync.objects sync.workers →
      Covers host all result.1.files result.1.objects
        (sync.workers.set number result.2) :=
    fun holds => covers_advance holds here going advances
  constructor
  · intro fetching
    show result.1.index = none
    rw [advances.index]
    exact invariant.fetching (advances.main.symm.trans fetching)
  · exact .inr ⟨all, kept covers⟩
  · intro indexBytes waiting
    obtain ⟨others, lists, holds⟩ := invariant.waiting indexBytes
      (advances.main.symm.trans waiting)
    exact ⟨others, lists, kept holds⟩
  · intro indexBytes publishing
    exact absurd (invariant.published indexBytes
      (advances.main.symm.trans publishing)) (busy indexBytes)
  · intro indexBytes written
    exact absurd (invariant.written indexBytes
      (advances.index.symm.trans written)) (busy indexBytes)
  · intro ends
    show result.1.index.isSome
    rw [advances.index]
    exact invariant.reported (advances.main ▸ ends)

theorem beginWorkers_invariant (indexBytes : List UInt8)
    (invariant : SyncInvariant host sync) (fetching : sync.main = .fetching) :
    SyncInvariant host (beginWorkers host sync indexBytes) := by
  unfold beginWorkers
  cases lists : host.parse indexBytes >>= assetObjects with
  | error problem => exact threw_invariant invariant problem
  | ok objects =>
      have absent := invariant.fetching fetching
      have covers : Covers host objects sync.files objects
          (List.replicate (min downloadConcurrency (max 1 objects.length))
            .looping) := by
        obtain ⟨entries, -, collected⟩ :=
          Program.outcome_bind_eq_ok.mp lists
        have idle : ∀ stage ∈ List.replicate
            (min downloadConcurrency (max 1 objects.length))
              WorkerStage.looping, stage = .looping :=
          fun stage member => List.eq_of_mem_replicate member
        constructor
        · exact (assetObjects_spec collected).1
        · exact .inr fun object member => .inl member
        · exact fun _ member => member
        · intro stage member object own
          rw [idle stage member] at own
          cases own
        · intro stage member
          rw [idle stage member]
          trivial
        · intro member
          cases idle _ member
        · intro empty
          rw [List.replicate_eq_nil_iff] at empty
          unfold downloadConcurrency at empty
          omega
      dsimp only
      split
      · exact threw_invariant invariant _
      · constructor
        · intro here
          cases here
        · exact .inr ⟨objects, covers⟩
        · intro other here
          cases here
          exact ⟨objects, lists, covers⟩
        · intro other here
          cases here
        · intro other written
          rw [absent] at written
          cases written
        · rintro (here | here) <;> cases here

theorem settleWorkers_invariant {indexBytes : List UInt8}
    (invariant : SyncInvariant host sync)
    (waiting : sync.main = .waiting indexBytes)
    (step : settleWorkers sync indexBytes = some next) :
    SyncInvariant host next := by
  unfold settleWorkers at step
  cases problem : sync.workers.findSome? rejection with
  | some problem =>
      rw [problem] at step
      cases step
      exact threw_invariant invariant _
  | none =>
      rw [problem] at step
      dsimp only at step
      split at step
      next all =>
        cases step
        have finished : ∀ stage ∈ sync.workers, stage = .finished :=
          fun stage member =>
            of_decide_eq_true (List.all_eq_true.mp all stage member)
        obtain ⟨objects, lists, covers⟩ :=
          invariant.waiting indexBytes waiting
        constructor
        · intro here
          cases here
        · exact invariant.working
        · intro other here
          cases here
        · intro other here
          cases here
          exact ⟨objects, lists, complete_of_finished covers finished,
            finished⟩
        · exact invariant.written
        · rintro (here | here) <;> cases here
      · cases step

theorem assetStep_invariant {event : AssetEvent}
    (invariant : SyncInvariant host sync)
    (step : assetStep host sync event = some next) :
    SyncInvariant host next := by
  unfold assetStep at step
  cases event with
  | abort =>
      cases step
      exact ⟨invariant.fetching, invariant.working, invariant.waiting,
        invariant.published, invariant.written, invariant.reported⟩
  | indexFetched answer =>
      dsimp only at step
      split at step
      · cases step
        exact threw_invariant invariant _
      next fetching =>
        cases step
        exact beginWorkers_invariant _ invariant fetching
      · cases step
  | worker number event =>
      dsimp only at step
      split at step
      · cases step
      next here =>
        obtain ⟨result, moved, rfl⟩ := Option.map_eq_some_iff.mp step
        exact worker_invariant invariant here moved
  | settled =>
      dsimp only at step
      split at step
      next waiting => exact settleWorkers_invariant invariant waiting step
      · cases step
  | indexWritten problem =>
      dsimp only at step
      split at step
      · cases step
        exact threw_invariant invariant _
      next indexBytes publishing =>
        cases step
        have published := invariant.published indexBytes publishing
        constructor
        · intro here
          cases here
        · exact invariant.working
        · intro other here
          cases here
        · intro other here
          cases here
        · intro other written
          cases written
          exact published
        · exact fun _ => rfl
      · cases step
  | logged problem =>
      dsimp only at step
      split at step
      next reporting =>
        split at step
        · cases step
          exact threw_invariant invariant _
        · split at step
          · cases step
            exact threw_invariant invariant _
          · cases step
            refine ⟨?_, invariant.working, ?_, ?_, invariant.written,
              fun _ => invariant.reported (.inl reporting)⟩
            · intro here
              cases here
            · intro other here
              cases here
            · intro other here
              cases here
      · cases step

end Call

/-- The file that an entry lists has its size and its digest. -/
def Present (host : AssetHost) (files : String → Option ObjectFile)
    (entry : AssetEntry) : Prop :=
  ∃ hash size bytes, entry = ⟨some hash, some size⟩ ∧
    files hash = some (.file bytes) ∧ bytes.length = size ∧
      host.sha1 bytes = hash

/-- Once the index is written, every entry of it is present; it is written when
the call returns. -/
theorem index_over_complete_assets
    (host : AssetHost) (files : String → Option ObjectFile)
    (events : List AssetEvent) (reached : AssetSync) (outputs : List Empty)
    (run : execute (syncStep host) (startSync files) events =
      some (reached, outputs)) :
    (reached.main = .returned → reached.index.isSome) ∧
      ∀ indexBytes, reached.index = some indexBytes →
        ∃ entries, host.parse indexBytes = .ok entries ∧
          (EqualSizes entries →
            ∀ entry ∈ entries, Present host reached.files entry) := by
  have invariant : SyncInvariant host reached := by
    refine execute_induction
      (motive := fun sync _ => SyncInvariant host sync) ?_
      (startSync_invariant files) run
    intro sync past event next now holds step
    obtain ⟨result, moved, same⟩ := Option.map_eq_some_iff.mp step
    cases same
    exact assetStep_invariant holds moved
  refine ⟨fun returned => invariant.reported (.inr returned), ?_⟩
  intro indexBytes written
  obtain ⟨all, lists, complete, -⟩ := invariant.written indexBytes written
  obtain ⟨entries, parsed, collected⟩ := Program.outcome_bind_eq_ok.mp lists
  refine ⟨entries, parsed, fun equal entry member => ?_⟩
  obtain ⟨object, inside, same⟩ :=
    (assetObjects_spec collected).2 equal entry member
  obtain ⟨bytes, found, size, digest⟩ := complete object inside
  exact ⟨object.hash, object.size, bytes, same, found, by rw [size], digest⟩

/-- A digest that tells the sums of the bytes apart. -/
def sampleDigest (bytes : List UInt8) : String :=
  let sum := bytes.foldl (fun total byte => total + byte.toNat) 0
  String.ofList (List.replicate 40 (Nat.digitChar (sum % 16)))

def sampleHost : AssetHost where
  sha1 := sampleDigest
  parse := fun bytes =>
    if bytes = [123, 125] then
      .ok [⟨some (sampleDigest [7]), some 1⟩,
        ⟨some (sampleDigest [4, 5]), some 2⟩]
    else
      .error "Unexpected end of JSON input"

/-- The second object is there already. -/
def sampleFiles : String → Option ObjectFile :=
  Function.update (fun _ => none) (sampleDigest [4, 5])
    (some (.file [4, 5]))

/-- One worker finds its object, the other downloads its own on the second
attempt. -/
def sampleEvents : List AssetEvent :=
  [.indexFetched (.ok [123, 125]), .worker 0 .next, .worker 1 .next,
    .worker 1 (.inspected none), .worker 0 (.inspected none),
    .worker 1 (.answered (.error "HTTP 503")), .worker 0 (.hashed none),
    .worker 1 (.answered (.ok [7])), .worker 0 (.counted none),
    .worker 1 (.prepared none), .worker 0 .next, .worker 1 (.renamed none),
    .worker 1 (.counted none), .worker 1 .next, .settled,
    .indexWritten none, .logged none]

def sampleRun : Option (AssetSync × List Empty) :=
  execute (syncStep sampleHost) (startSync sampleFiles) sampleEvents

theorem sampleRun_returns :
    (sampleRun.map fun result => result.1.main) = some .returned := by
  decide +kernel

def sampleReached : AssetSync :=
  (sampleRun.map Prod.fst).getD (startSync sampleFiles)

theorem sample_assets_complete :
    (sampleReached.main = .returned → sampleReached.index.isSome) ∧
      ∀ indexBytes, sampleReached.index = some indexBytes →
        ∃ entries, sampleHost.parse indexBytes = .ok entries ∧
          (EqualSizes entries →
            ∀ entry ∈ entries, Present sampleHost sampleReached.files entry) := by
  obtain ⟨result, found, -⟩ := Option.map_eq_some_iff.mp sampleRun_returns
  obtain ⟨reached, outputs⟩ := result
  have same : sampleReached = reached := by
    rw [sampleReached, found]
    rfl
  rw [same]
  exact index_over_complete_assets sampleHost sampleFiles sampleEvents
    reached outputs found

end GravitPanel.Clients.Assets
