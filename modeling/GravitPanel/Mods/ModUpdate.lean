import Mathlib.Logic.Function.Basic
import GravitPanel.Core.Faults
import GravitPanel.Core.PosixPath
import GravitPanel.Core.JavaScript
import GravitPanel.Servers.ProfileServers

/-!
# Updating a mod

`update` of `mod-manager.service.ts`.  The state is the mods directory of the
profile; an operation that fails changes nothing.
-/

namespace GravitPanel.Mods

open Program FileTree

variable {Content : Type}

/-- What a name of the mods directory stands for. -/
inductive ModEntry (Content : Type) where
  | file (bytes : Content)
  | directory
  | link (toDirectory : Bool)
  deriving DecidableEq, Repr

abbrev ModsDirectory (Content : Type) := String → Option (ModEntry Content)

structure UpdateFile where
  filename : String
  primary : Bool
  sha1 : String
  deriving DecidableEq, Repr

structure UpdateVersion where
  id : String
  versionNumber : String
  files : List UpdateFile
  deriving DecidableEq, Repr

structure ModUpdateResult where
  filename : String
  alreadyCurrent : Bool
  versionId : Option String
  versionName : Option String
  deriving DecidableEq, Repr

/-- The places at which an update may fail or be cancelled. -/
inductive UpdatePoint where
  | inspectSource
  | readSource
  | resolving
  | lookup
  | inspectTarget
  | downloading
  | download
  | writePending
  | setAside
  | publish
  | restore
  | dropPending
  | dropBackup
  | reload
  | updated
  | installed
  deriving DecidableEq, Repr

/-- What an update meets; `latestFromHash` is for its Minecraft version and
loader, and the identifiers are the random ones of the hidden files. -/
structure UpdateHost (Content : Type) where
  sha1 : Content → String
  latestFromHash : String → Option UpdateVersion
  download : UpdateFile → Content
  pendingId : String
  backupId : String
  sync : Bool

def beforeEnding (ending text : String) : Option (List Char) :=
  if ending.toList.isSuffixOf text.toList then
    some (text.toList.take (text.toList.length - ending.toList.length))
  else none

def validStem (stem : List Char) : Bool :=
  stem ≠ [] && (stem.map JavaScript.units).sum ≤ 255 &&
    stem.all fun character =>
      character ≠ '/' && character ≠ '\\' && character ≠ '\x00'

/-- `/^[^/\\\0]{1,255}\.jar(?:\.disabled)?$/`. -/
def filenamePattern (filename : String) : Bool :=
  (beforeEnding ".jar" filename).any validStem ||
    (beforeEnding ".jar.disabled" filename).any validStem

def safeFilename (filename : String) : Except String String :=
  if !filenamePattern filename || basename filename ≠ filename then
    .error "Unsafe mod filename"
  else .ok filename

def endsWith (text ending : String) : Bool :=
  ending.toList.isSuffixOf text.toList

def isDisabled (filename : String) : Bool :=
  endsWith filename ".disabled"

/-- The names that `list` looks at. -/
def isReported (filename : String) : Bool :=
  endsWith filename ".jar" || endsWith filename ".jar.disabled"

/-- The mods that `list` reports, with their bytes. -/
def listing (directory : ModsDirectory Content) (filename : String) :
    Option Content :=
  if isReported filename then
    match directory filename with
    | some (.file bytes) => some bytes
    | _ => none
  else none

/-- A directory takes what is moved to its name. -/
def takesIn : Option (ModEntry Content) → Bool
  | some .directory => true
  | some (.link toDirectory) => toDirectory
  | _ => false

/-- `mv`. -/
def moveEntry (source target : String) :
    Program (ModsDirectory Content) String PUnit := do
  let directory ← get
  match directory source with
  | none => throw "Unable to move volume path"
  | some entry =>
      update fun directory =>
        if takesIn (directory target) then
          Function.update directory source none
        else
          Function.update (Function.update directory source none) target
            (some entry)

/-- `rm -f`. -/
def removeEntry (name : String) :
    Program (ModsDirectory Content) String PUnit := do
  let directory ← get
  match directory name with
  | some .directory => throw "Unable to remove volume path"
  | _ => update fun directory => Function.update directory name none

def updateFile (release : UpdateVersion) : Option UpdateFile :=
  (release.files.find? UpdateFile.primary).or release.files.head?

def targetName (filename downloaded : String) : String :=
  if isDisabled filename then downloaded ++ ".disabled" else downloaded

def pendingName (host : UpdateHost Content) : String :=
  ".gravit-panel-" ++ host.pendingId ++ ".pending"

def backupName (host : UpdateHost Content) : String :=
  ".gravit-panel-" ++ host.backupId ++ ".backup"

section Update

variable (host : UpdateHost Content) (faults : UpdatePoint → Option String)

/-- `assertRegularMod` and the bytes of the file. -/
def readRegularMod (filename : String) :
    Program (ModsDirectory Content) String Content := do
  reach faults .inspectSource
  let directory ← get
  match directory filename with
  | some (.file bytes) => do
      reach faults .readSource
      pure bytes
  | some _ => throw "Mod target must be a regular file"
  | none => throw "ENOENT: no such file or directory, lstat"

def findRelease (hash : String) :
    Except String (UpdateVersion × UpdateFile) :=
  match host.latestFromHash hash with
  | none => .error "The selected file is not recognized by Modrinth"
  | some release =>
      match updateFile release with
      | none =>
          .error "Modrinth version does not contain a downloadable file"
      | some file => .ok (release, file)

def demandFree (filename target : String) :
    Program (ModsDirectory Content) String PUnit :=
  if target = filename then pure ⟨⟩
  else do
    reach faults .inspectTarget
    let directory ← get
    if (directory target).isSome then
      throw ("Update target already exists: " ++ target)
    else pure ⟨⟩

/-- The old file is put back and the pending one removed. -/
def restoreOld (filename problem : String) :
    Program (ModsDirectory Content) String PUnit := do
  reach faults .restore
  moveEntry (backupName host) filename
  reach faults .dropPending
  removeEntry (pendingName host)
  throw problem

def placePending (filename target : String) :
    Program (ModsDirectory Content) String PUnit :=
  handle (do
    reach faults .publish
    moveEntry (pendingName host) target)
    (restoreOld host faults filename)

/-- Put the pending file in the place of the old one. -/
def publishUpdate (filename target : String) :
    Program (ModsDirectory Content) String PUnit := do
  reach faults .setAside
  moveEntry filename (backupName host)
  placePending host faults filename target
  reach faults .dropBackup
  removeEntry (backupName host)

def installRelease
    (filename target : String) (release : UpdateVersion)
    (file : UpdateFile) :
    Program (ModsDirectory Content) String ModUpdateResult := do
  reach faults .downloading
  reach faults .download
  reach faults .writePending
  update fun directory => Function.update directory (pendingName host)
    (some (.file (host.download file)))
  publishUpdate host faults filename target
  (if host.sync then reach faults .reload else pure ⟨⟩ :
    Program (ModsDirectory Content) String PUnit)
  reach faults .updated
  reach faults .installed
  pure ⟨target, false, some release.id, some release.versionNumber⟩

def updateMod (profile filename : String) :
    Program (ModsDirectory Content) String ModUpdateResult := do
  lift (Servers.validateProfile profile)
  let safeName ← lift (safeFilename filename)
  let bytes ← readRegularMod faults safeName
  reach faults .resolving
  reach faults .lookup
  let found ← lift (findRelease host (host.sha1 bytes))
  if found.2.sha1 = host.sha1 bytes then do
    reach faults .installed
    pure ⟨safeName, true, none, none⟩
  else do
    let downloadedName ← lift (safeFilename found.2.filename)
    demandFree faults safeName (targetName safeName downloadedName)
    installRelease host faults safeName
      (targetName safeName downloadedName) found.1 found.2

end Update

/-- The directory after the new file took the place of the old one. -/
def placed (before : ModsDirectory Content) (filename target : String)
    (bytes : Content) : ModsDirectory Content :=
  Function.update (Function.update before filename none) target
    (some (.file bytes))

/-- A file that an update of a mod takes up. -/
structure Offered (host : UpdateHost Content)
    (before : ModsDirectory Content) (profile filename : String)
    (file : UpdateFile) : Prop where
  profile : Servers.validateProfile profile = .ok ()
  safe : safeFilename filename = .ok filename
  newer : ∃ bytes release, before filename = some (.file bytes) ∧
    findRelease host (host.sha1 bytes) = .ok (release, file) ∧
      file.sha1 ≠ host.sha1 bytes
  named : safeFilename file.filename = .ok file.filename
  free : targetName filename file.filename = filename ∨
    before (targetName filename file.filename) = none

/-- The hidden names are of no file so far. -/
structure FreshHidden (host : UpdateHost Content)
    (before : ModsDirectory Content) : Prop where
  pending : before (pendingName host) = none
  backup : before (backupName host) = none

/-- The new file, and not the old one, is reported in the same state, and the
other mods are as before. -/
structure HoldsNew (host : UpdateHost Content)
    (before after : ModsDirectory Content) (filename target : String)
    (file : UpdateFile) : Prop where
  newer : ∃ bytes release, before filename = some (.file bytes) ∧
    findRelease host (host.sha1 bytes) = .ok (release, file)
  reported : isReported target = true
  state : isDisabled target = isDisabled filename
  free : target = filename ∨ listing before target = none
  mods : listing after =
    Function.update (Function.update (listing before) filename none) target
      (some (host.download file))

/-- After an update the reported mods are as before, or the new file is among
them in the place of the old one; after a change it is. -/
structure OneVersion (host : UpdateHost Content)
    (before : ModsDirectory Content) (filename : String)
    (run : Except String ModUpdateResult × ModsDirectory Content) :
    Prop where
  present : listing run.2 = listing before ∨
    ∃ target file, HoldsNew host before run.2 filename target file
  changed : ∀ result, run.1 = .ok result → result.alreadyCurrent = false →
    ∃ target file, HoldsNew host before run.2 filename target file

section Names

variable {filename downloaded : String}

theorem getLast?_of_endsWith {text ending : String}
    (ends : endsWith text ending = true) (some : ending.toList ≠ []) :
    text.toList.getLast? = ending.toList.getLast? := by
  obtain ⟨front, same⟩ := List.isSuffixOf_iff_suffix.mp ends
  rw [← same, List.getLast?_append_of_ne_nil _ some]

theorem getLast?_of_isReported (reported : isReported filename = true) :
    filename.toList.getLast? = some 'r' ∨
      filename.toList.getLast? = some 'd' := by
  rcases Bool.or_eq_true_iff.mp reported with ends | ends
  · exact .inl (getLast?_of_endsWith ends (by decide))
  · exact .inr (getLast?_of_endsWith ends (by decide))

theorem isReported_of_safeFilename
    (safe : safeFilename filename = .ok downloaded) :
    downloaded = filename ∧ isReported filename = true := by
  unfold safeFilename at safe
  split at safe
  · cases safe
  next allowed =>
    cases safe
    refine ⟨rfl, ?_⟩
    rw [Bool.or_eq_true, not_or, Bool.not_eq_true', Bool.not_eq_false]
      at allowed
    have ending : ∀ ending, (beforeEnding ending filename).any validStem =
        true → endsWith filename ending = true := by
      intro ending matched
      unfold beforeEnding at matched
      split at matched
      next suffix => exact suffix
      · cases matched
    rcases Bool.or_eq_true_iff.mp allowed.1 with matched | matched
    · exact Bool.or_eq_true_iff.mpr (.inl (ending _ matched))
    · exact Bool.or_eq_true_iff.mpr (.inr (ending _ matched))

theorem endsWith_append {text ending last : String} :
    endsWith (text ++ last) (ending ++ last) = true ↔
      endsWith text ending = true := by
  unfold endsWith
  rw [List.isSuffixOf_iff_suffix, List.isSuffixOf_iff_suffix,
    String.toList_append, String.toList_append]
  exact List.suffix_append_self_iff

theorem isDisabled_append (front : String) :
    isDisabled (front ++ ".disabled") = true := by
  unfold isDisabled endsWith
  rw [List.isSuffixOf_iff_suffix, String.toList_append]
  exact List.suffix_append _ _

theorem isDisabled_eq_false_iff (reported : isReported filename = true) :
    isDisabled filename = false ↔ endsWith filename ".jar" = true := by
  constructor
  · intro enabled
    rcases Bool.or_eq_true_iff.mp reported with ends | ends
    · exact ends
    · obtain ⟨front, same⟩ := List.isSuffixOf_iff_suffix.mp ends
      have disabled : isDisabled filename = true :=
        List.isSuffixOf_iff_suffix.mpr
          ⟨front ++ ".jar".toList, by rw [List.append_assoc]; exact same⟩
      rw [enabled] at disabled
      cases disabled
  · intro ends
    cases disabled : isDisabled filename with
    | false => rfl
    | true =>
        have last := getLast?_of_endsWith ends (by decide)
        have other : filename.toList.getLast? = ".disabled".toList.getLast? :=
          getLast?_of_endsWith disabled (by decide)
        exact absurd (last.symm.trans other) (by decide)

/-- The target is reported in the state of the old file exactly if the name of
the download is that of an enabled mod. -/
theorem targetName_fits_iff (reported : isReported downloaded = true) :
    (isReported (targetName filename downloaded) = true ∧
      isDisabled (targetName filename downloaded) = isDisabled filename) ↔
        isDisabled downloaded = false := by
  unfold targetName
  cases state : isDisabled filename with
  | false =>
      rw [if_neg Bool.false_ne_true]
      exact and_iff_right reported
  | true =>
      rw [if_pos rfl, isDisabled_append, eq_self_iff_true, and_true,
        isDisabled_eq_false_iff reported]
      have jar : endsWith (downloaded ++ ".disabled") ".jar.disabled" =
          true ↔ endsWith downloaded ".jar" = true :=
        @endsWith_append downloaded ".jar" ".disabled"
      rw [← jar]
      constructor
      · intro shown
        rcases Bool.or_eq_true_iff.mp shown with ends | ends
        · have last := getLast?_of_endsWith ends (by decide)
          have other : (downloaded ++ ".disabled").toList.getLast? =
              ".disabled".toList.getLast? :=
            getLast?_of_endsWith (isDisabled_append downloaded) (by decide)
          exact absurd (last.symm.trans other) (by decide)
        · exact ends
      · exact fun ends => Bool.or_eq_true_iff.mpr (.inr ends)

theorem getLast?_pendingName (host : UpdateHost Content) :
    (pendingName host).toList.getLast? = some 'g' := by
  rw [pendingName, String.toList_append,
    List.getLast?_append_of_ne_nil _ (by decide)]
  decide

theorem getLast?_backupName (host : UpdateHost Content) :
    (backupName host).toList.getLast? = some 'p' := by
  rw [backupName, String.toList_append,
    List.getLast?_append_of_ne_nil _ (by decide)]
  decide

theorem isReported_of_getLast? {name : String} {last : Char}
    (ends : name.toList.getLast? = some last)
    (other : last ≠ 'r' ∧ last ≠ 'd') : isReported name = false := by
  cases reported : isReported name with
  | false => rfl
  | true =>
      rcases getLast?_of_isReported reported with same | same
      · exact absurd (Option.some.inj (ends.symm.trans same)) other.1
      · exact absurd (Option.some.inj (ends.symm.trans same)) other.2

theorem hidden_pending (host : UpdateHost Content) :
    isReported (pendingName host) = false :=
  isReported_of_getLast? (getLast?_pendingName host) (by decide)

theorem hidden_backup (host : UpdateHost Content) :
    isReported (backupName host) = false :=
  isReported_of_getLast? (getLast?_backupName host) (by decide)

theorem pendingName_ne_backupName (host : UpdateHost Content) :
    pendingName host ≠ backupName host := by
  intro same
  have ends := getLast?_pendingName host
  rw [same, getLast?_backupName] at ends
  exact absurd ends (by decide)

theorem targetName_ne {hidden : String} {last : Char}
    (reported : isReported downloaded = true)
    (ends : hidden.toList.getLast? = some last)
    (other : last ≠ 'r' ∧ last ≠ 'd') :
    targetName filename downloaded ≠ hidden := by
  have own : (targetName filename downloaded).toList.getLast? = some 'r' ∨
      (targetName filename downloaded).toList.getLast? = some 'd' := by
    unfold targetName
    split
    · exact .inr
        (getLast?_of_endsWith (isDisabled_append downloaded) (by decide))
    · exact getLast?_of_isReported reported
  intro same
  rw [same, ends] at own
  rcases own with letter | letter
  · exact other.1 (Option.some.inj letter)
  · exact other.2 (Option.some.inj letter)

theorem ne_hidden {name hidden : String} (reported : isReported name = true)
    (unseen : isReported hidden = false) : name ≠ hidden := by
  rintro rfl
  rw [reported] at unseen
  cases unseen

end Names

section Listings

variable {directory : ModsDirectory Content} {name : String}

theorem listing_update_hidden (hidden : isReported name = false)
    (entry : Option (ModEntry Content)) :
    listing (Function.update directory name entry) = listing directory := by
  funext other
  unfold listing
  by_cases same : other = name
  · rw [same, hidden]
    rfl
  · rw [Function.update_of_ne same]

theorem listing_update_congr {other : ModsDirectory Content}
    (same : listing directory = listing other)
    (entry : Option (ModEntry Content)) :
    listing (Function.update directory name entry) =
      listing (Function.update other name entry) := by
  funext shown
  by_cases here : shown = name
  · rw [here, listing, listing, Function.update_self, Function.update_self]
  · have there := congrFun same shown
    rw [listing, listing, Function.update_of_ne here,
      Function.update_of_ne here]
    exact there

theorem listing_update_none (name : String) :
    listing (Function.update directory name none) =
      Function.update (listing directory) name none := by
  funext other
  by_cases same : other = name
  · rw [same, Function.update_self, listing, Function.update_self]
    exact ite_self none
  · rw [Function.update_of_ne same, listing, listing,
      Function.update_of_ne same]

theorem listing_update_file (reported : isReported name = true)
    (bytes : Content) :
    listing (Function.update directory name (some (.file bytes))) =
      Function.update (listing directory) name (some bytes) := by
  funext other
  by_cases same : other = name
  · rw [same, Function.update_self, listing, Function.update_self,
      if_pos reported]
  · rw [Function.update_of_ne same, listing, listing,
      Function.update_of_ne same]

end Listings

/-! ## Runs -/

section Runs

variable {host : UpdateHost Content} {faults : UpdatePoint → Option String}
variable {before directory : ModsDirectory Content}
variable {profile filename target : String}

theorem moveEntry_run {source : String} {entry : ModEntry Content}
    (present : directory source = some entry)
    (free : takesIn (directory target) = false) :
    moveEntry source target directory =
      (.ok ⟨⟩, Function.update (Function.update directory source none) target
        (some entry)) := by
  rw [moveEntry, get_bind, present]
  dsimp only
  rw [update_apply, if_neg (ne_true_of_eq_false free)]

theorem removeEntry_run {name : String}
    (other : directory name ≠ some .directory) :
    removeEntry name directory =
      (.ok ⟨⟩, Function.update directory name none) := by
  rw [removeEntry, get_bind]
  cases entry : directory name with
  | none => rfl
  | some found =>
      cases found with
      | directory => exact absurd entry other
      | file bytes => rfl
      | link toDirectory => rfl

theorem reach_bind_of_clear {Value : Type} {point : UpdatePoint}
    (clear : faults point = none)
    (next : PUnit → Program (ModsDirectory Content) String Value) :
    (reach faults point >>= next) directory = next ⟨⟩ directory := by
  rw [reach, lift_bind, outcomeAt, clear]

theorem reach_bind_of_fault {Value : Type} {point : UpdatePoint}
    {problem : String} (fault : faults point = some problem)
    (next : PUnit → Program (ModsDirectory Content) String Value) :
    (reach faults point >>= next) directory = (.error problem, directory) := by
  rw [reach, lift_bind, outcomeAt, fault]

theorem readOnly_bind_cases {State Value Result : Type}
    {program : Program State String Value} (readOnly : ReadOnly program)
    (next : Value → Program State String Result) (state : State) :
    (∃ problem, (program >>= next) state = (.error problem, state)) ∨
      ∃ value, program state = (.ok value, state) ∧
        (program >>= next) state = next value state := by
  have same := readOnly state
  rcases run : program state with ⟨problem | value, reached⟩
  · rw [run] at same
    subst same
    exact .inl ⟨problem, bind_of_error run next⟩
  · rw [run] at same
    subst same
    exact .inr ⟨value, rfl, bind_of_ok run next⟩

/-- The reported mods stay as they are, or change when the new file is placed;
a normal end is after the change. -/
structure Settles (before placed : ModsDirectory Content) {Value : Type}
    (run : Except String Value × ModsDirectory Content) : Prop where
  mods : listing run.2 = listing before ∨ listing run.2 = listing placed
  returned : ∀ value, run.1 = .ok value → listing run.2 = listing placed

theorem settles_error {placed after : ModsDirectory Content} {Value : Type}
    (problem : String)
    (mods : listing after = listing before ∨ listing after = listing placed) :
    Settles before placed
      ((.error problem, after) :
        Except String Value × ModsDirectory Content) where
  mods := mods
  returned := by
    intro value ended
    cases ended

structure SetAside (host : UpdateHost Content)
    (directory aside : ModsDirectory Content) (filename : String)
    (old bytes : Content) : Prop where
  shown : isReported filename = true
  present : directory filename = some (.file old)
  source : aside filename = none
  backup : aside (backupName host) = some (.file old)
  pending : aside (pendingName host) = some (.file bytes)
  mods : listing aside = Function.update (listing directory) filename none

section Aside

variable {aside : ModsDirectory Content} {old bytes : Content}

theorem restoreOld_settles
    (state : SetAside host directory aside filename old bytes)
    (restores : faults .restore = none)
    (drops : faults .dropPending = none) (problem : String) :
    ∃ restored, listing restored = listing directory ∧
      restoreOld host faults filename problem aside =
        (.error problem, restored) := by
  have free : takesIn (aside filename) = false := by
    rw [state.source]
    rfl
  have other := ne_hidden state.shown (hidden_pending host)
  have hidden := pendingName_ne_backupName host
  have pending : Function.update (Function.update aside (backupName host)
      none) filename (some (.file old)) (pendingName host) ≠
        some .directory := by
    rw [Function.update_of_ne other.symm, Function.update_of_ne hidden,
      state.pending]
    intro same
    cases same
  refine ⟨Function.update (Function.update (Function.update aside
    (backupName host) none) filename (some (.file old)))
      (pendingName host) none, ?_, ?_⟩
  · have held : listing directory filename = some old := by
      rw [listing, if_pos state.shown, state.present]
    rw [listing_update_hidden (hidden_pending host),
      listing_update_file state.shown,
      listing_update_hidden (hidden_backup host), state.mods,
      Function.update_idem]
    exact Function.update_eq_self_iff.mpr held.symm
  · rw [restoreOld, reach_bind_of_clear restores,
      bind_of_ok (moveEntry_run state.backup free),
      reach_bind_of_clear drops, bind_of_ok (removeEntry_run pending),
      throw_apply]

theorem placePending_restores {problem : String}
    (state : SetAside host directory aside filename old bytes)
    (restores : faults .restore = none)
    (drops : faults .dropPending = none)
    (publish : faults .publish = some problem) :
    ∃ restored, listing restored = listing directory ∧
      placePending host faults filename target aside =
        (.error problem, restored) := by
  obtain ⟨restored, same, run⟩ :=
    restoreOld_settles state restores drops problem
  refine ⟨restored, same, ?_⟩
  rw [placePending, handle_of_error (reach_bind_of_fault publish _)]
  exact run

theorem placePending_places
    (state : SetAside host directory aside filename old bytes)
    (free : takesIn (aside target) = false)
    (publish : faults .publish = none) :
    placePending host faults filename target aside =
      (.ok ⟨⟩, Function.update (Function.update aside (pendingName host)
        none) target (some (.file bytes))) := by
  have moved := moveEntry_run state.pending free
  rw [placePending]
  apply handle_of_ok
  rw [reach_bind_of_clear publish]
  exact moved

theorem placed_state
    (state : SetAside host directory aside filename old bytes)
    (targetBackup : target ≠ backupName host) :
    listing (Function.update (Function.update aside (pendingName host) none)
        target (some (.file bytes))) =
      listing (placed directory filename target bytes) ∧
    Function.update (Function.update aside (pendingName host) none) target
      (some (.file bytes)) (backupName host) ≠ some .directory := by
  constructor
  · apply listing_update_congr
    rw [listing_update_hidden (hidden_pending host), state.mods,
      listing_update_none]
  · rw [Function.update_of_ne targetBackup.symm,
      Function.update_of_ne (pendingName_ne_backupName host).symm,
      state.backup]
    intro other
    cases other

end Aside

/-- A directory in which a pending file is ready. -/
structure Ready (host : UpdateHost Content)
    (directory : ModsDirectory Content) (filename target : String)
    (old bytes : Content) : Prop where
  shown : isReported filename = true
  present : directory filename = some (.file old)
  pending : directory (pendingName host) = some (.file bytes)
  backup : directory (backupName host) = none
  free : target = filename ∨ directory target = none
  other : target ≠ backupName host

section Publish

variable {old bytes : Content}

theorem setAside_run
    (ready : Ready host directory filename target old bytes) :
    ∃ aside, SetAside host directory aside filename old bytes ∧
      takesIn (aside target) = false ∧
        moveEntry filename (backupName host) directory = (.ok ⟨⟩, aside) := by
  have filenamePending := ne_hidden ready.shown (hidden_pending host)
  have filenameBackup := ne_hidden ready.shown (hidden_backup host)
  have free : takesIn (directory (backupName host)) = false := by
    rw [ready.backup]
    rfl
  refine ⟨_, ⟨ready.shown, ready.present, ?_, ?_, ?_, ?_⟩, ?_,
    moveEntry_run ready.present free⟩
  · rw [Function.update_of_ne filenameBackup, Function.update_self]
  · rw [Function.update_self]
  · rw [Function.update_of_ne (pendingName_ne_backupName host),
      Function.update_of_ne filenamePending.symm, ready.pending]
  · rw [listing_update_hidden (hidden_backup host), listing_update_none]
  · rw [Function.update_of_ne ready.other]
    by_cases here : target = filename
    · rw [here, Function.update_self]
      rfl
    · rw [Function.update_of_ne here, ready.free.resolve_left here]
      rfl

theorem publishUpdate_settles
    (ready : Ready host directory filename target old bytes)
    (restores : faults .restore = none)
    (drops : faults .dropPending = none) :
    Settles directory (placed directory filename target bytes)
      (publishUpdate host faults filename target directory) := by
  rw [publishUpdate]
  rcases readOnly_bind_cases (readOnly_reach _) _ directory with
    ⟨problem, run⟩ | ⟨_, -, run⟩
  · rw [run]
    exact settles_error problem (.inl rfl)
  obtain ⟨aside, state, free, moved⟩ := setAside_run ready
  rw [run, bind_of_ok moved]
  cases publish : faults .publish with
  | some problem =>
      obtain ⟨restored, mods, failed⟩ :=
        @placePending_restores _ _ _ _ _ target _ _ _ _ state restores drops
          publish
      rw [bind_of_error failed]
      exact settles_error problem (.inl mods)
  | none =>
      obtain ⟨mods, last⟩ := placed_state state ready.other
      rw [bind_of_ok (placePending_places state free publish)]
      rcases readOnly_bind_cases (readOnly_reach _) _ _ with
        ⟨problem, run⟩ | ⟨_, -, run⟩
      · rw [run]
        exact settles_error problem (.inr mods)
      rw [run, removeEntry_run last]
      have dropped := (listing_update_hidden (hidden_backup host) none).trans
        mods
      exact ⟨.inr dropped, fun _ _ => dropped⟩

theorem publishUpdate_ends
    (ready : Ready host directory filename target old bytes) :
    ∃ after, publishUpdate host (fun _ => none) filename target directory =
      (.ok ⟨⟩, after) := by
  obtain ⟨aside, state, free, moved⟩ := setAside_run ready
  obtain ⟨-, last⟩ := placed_state state ready.other
  rw [publishUpdate, reach_bind_of_clear rfl, bind_of_ok moved,
    bind_of_ok (placePending_places state free rfl), reach_bind_of_clear rfl,
    removeEntry_run last]
  exact ⟨_, rfl⟩

end Publish

theorem Settles.bind {placed : ModsDirectory Content}
    {Value Result : Type}
    {program : Program (ModsDirectory Content) String Value}
    {next : Value → Program (ModsDirectory Content) String Result}
    (settled : Settles before placed (program directory))
    (reads : ∀ value, ReadOnly (next value)) :
    Settles before placed ((program >>= next) directory) := by
  rcases run : program directory with ⟨problem | value, reached⟩
  · rw [bind_of_error run]
    rw [run] at settled
    exact settles_error problem settled.mods
  · rw [bind_of_ok run]
    rw [run] at settled
    have same : (next value reached).2 = reached := reads value reached
    have last := settled.returned value rfl
    constructor
    · rw [same]
      exact .inr last
    · intro _ _
      rw [same]
      exact last

/-- A directory in which the update can take place. -/
structure Vacant (host : UpdateHost Content)
    (before : ModsDirectory Content) (filename target : String)
    (old : Content) : Prop where
  shown : isReported filename = true
  present : before filename = some (.file old)
  backup : before (backupName host) = none
  free : target = filename ∨ before target = none
  targetBackup : target ≠ backupName host
  targetPending : target ≠ pendingName host

section Install

variable {old bytes : Content} {release : UpdateVersion}
variable {file : UpdateFile}

theorem Vacant.ready (vacant : Vacant host before filename target old)
    (bytes : Content) :
    Ready host (Function.update before (pendingName host)
      (some (.file bytes))) filename target old bytes where
  shown := vacant.shown
  present := by
    rw [Function.update_of_ne (ne_hidden vacant.shown (hidden_pending host)),
      vacant.present]
  pending := Function.update_self ..
  backup := by
    rw [Function.update_of_ne (pendingName_ne_backupName host).symm,
      vacant.backup]
  free := by
    rw [Function.update_of_ne vacant.targetPending]
    exact vacant.free
  other := vacant.targetBackup

theorem installRelease_settles
    (vacant : Vacant host before filename target old)
    (restores : faults .restore = none)
    (drops : faults .dropPending = none) :
    Settles before (placed before filename target (host.download file))
      (installRelease host faults filename target release file before) := by
  have same : listing (Function.update before (pendingName host)
      (some (.file (host.download file)))) = listing before :=
    listing_update_hidden (hidden_pending host) _
  rw [installRelease]
  rcases readOnly_bind_cases (readOnly_reach _) _ before with
    ⟨problem, run⟩ | ⟨_, -, run⟩
  · rw [run]
    exact settles_error problem (.inl rfl)
  rw [run]
  rcases readOnly_bind_cases (readOnly_reach _) _ before with
    ⟨problem, run⟩ | ⟨_, -, run⟩
  · rw [run]
    exact settles_error problem (.inl rfl)
  rw [run]
  rcases readOnly_bind_cases (readOnly_reach _) _ before with
    ⟨problem, run⟩ | ⟨_, -, run⟩
  · rw [run]
    exact settles_error problem (.inl rfl)
  rw [run, bind_of_ok (update_apply _ _)]
  refine Settles.bind ?_ fun _ => ?_
  · have settled := publishUpdate_settles
      (vacant.ready (host.download file)) restores drops
    have replaced : listing (placed (Function.update before
        (pendingName host) (some (.file (host.download file))))
        filename target (host.download file)) =
          listing (placed before filename target (host.download file)) := by
      apply listing_update_congr
      exact listing_update_congr same none
    constructor
    · rw [← same, ← replaced]
      exact settled.mods
    · intro value ended
      rw [← replaced]
      exact settled.returned value ended
  · refine ReadOnly.bind ?_ fun _ => ?_
    · split
      · exact readOnly_reach _
      · exact readOnly_pure _
    · exact (readOnly_reach _).bind fun _ =>
        (readOnly_reach _).bind fun _ => readOnly_pure _

theorem installRelease_ends
    (vacant : Vacant host before filename target old) :
    ∃ after, installRelease host (fun _ => none) filename target release file
        before =
      (.ok ⟨target, false, some release.id, some release.versionNumber⟩,
        after) := by
  obtain ⟨after, published⟩ :=
    publishUpdate_ends (vacant.ready (host.download file))
  rw [installRelease, reach_bind_of_clear rfl, reach_bind_of_clear rfl,
    reach_bind_of_clear rfl, bind_of_ok (update_apply _ _),
    bind_of_ok published]
  refine ⟨after, ?_⟩
  cases host.sync with
  | true => rfl
  | false => rfl

end Install

theorem readOnly_readRegularMod :
    ReadOnly (readRegularMod faults filename :
      Program (ModsDirectory Content) String Content) := by
  refine (readOnly_reach _).bind fun _ => readOnly_get.bind fun found => ?_
  split
  · exact (readOnly_reach _).bind fun _ => readOnly_pure _
  · exact fun _ => rfl
  · exact fun _ => rfl

theorem readRegularMod_eq_ok {bytes : Content}
    {after : ModsDirectory Content}
    (read : readRegularMod faults filename before = (.ok bytes, after)) :
    before filename = some (.file bytes) := by
  obtain ⟨-, rest⟩ := reach_bind_eq_ok.mp read
  rw [get_bind] at rest
  cases entry : before filename with
  | none =>
      rw [entry] at rest
      cases rest
  | some found =>
      rw [entry] at rest
      cases found with
      | file other =>
          obtain ⟨-, done⟩ := reach_bind_eq_ok.mp rest
          cases done
          rfl
      | directory => cases rest
      | link toDirectory => cases rest

theorem readOnly_demandFree :
    ReadOnly (demandFree faults filename target :
      Program (ModsDirectory Content) String PUnit) := by
  unfold demandFree
  split
  · exact readOnly_pure _
  · refine (readOnly_reach _).bind fun _ => readOnly_get.bind fun found => ?_
    split
    · exact fun _ => rfl
    · exact readOnly_pure _

theorem demandFree_eq_ok {after : ModsDirectory Content} {value : PUnit}
    (free : demandFree faults filename target before = (.ok value, after)) :
    target = filename ∨ before target = none := by
  unfold demandFree at free
  split at free
  next same => exact .inl same
  · obtain ⟨-, rest⟩ := reach_bind_eq_ok.mp free
    rw [get_bind] at rest
    cases entry : before target with
    | none => exact .inr rfl
    | some found =>
        rw [entry] at rest
        cases rest

/-- An update leaves the reported mods, or places a file that is offered. -/
def UpdateEnds (host : UpdateHost Content) (before : ModsDirectory Content)
    (profile filename : String)
    (run : Except String ModUpdateResult × ModsDirectory Content) : Prop :=
  (listing run.2 = listing before ∧
    ∀ result, run.1 = .ok result → result.alreadyCurrent = true) ∨
  ∃ file, Offered host before profile filename file ∧
    Settles before (placed before filename
      (targetName filename file.filename) (host.download file)) run

theorem updateEnds_error (problem : String) :
    UpdateEnds host before profile filename (.error problem, before) := by
  refine .inl ⟨rfl, fun result ended => ?_⟩
  cases ended

theorem updateMod_ends (fresh : FreshHidden host before)
    (restores : faults .restore = none)
    (drops : faults .dropPending = none) :
    UpdateEnds host before profile filename
      (updateMod host faults profile filename before) := by
  rw [updateMod]
  rcases readOnly_bind_cases (readOnly_lift _) _ before with
    ⟨problem, run⟩ | ⟨_, valid, run⟩
  · rw [run]
    exact updateEnds_error problem
  rw [run]
  rcases readOnly_bind_cases (readOnly_lift _) _ before with
    ⟨problem, run⟩ | ⟨safeName, safe, run⟩
  · rw [run]
    exact updateEnds_error problem
  rw [run]
  rcases readOnly_bind_cases readOnly_readRegularMod _ before with
    ⟨problem, run⟩ | ⟨old, read, run⟩
  · rw [run]
    exact updateEnds_error problem
  rw [run]
  rcases readOnly_bind_cases (readOnly_reach _) _ before with
    ⟨problem, run⟩ | ⟨_, -, run⟩
  · rw [run]
    exact updateEnds_error problem
  rw [run]
  rcases readOnly_bind_cases (readOnly_reach _) _ before with
    ⟨problem, run⟩ | ⟨_, -, run⟩
  · rw [run]
    exact updateEnds_error problem
  rw [run]
  rcases readOnly_bind_cases (readOnly_lift _) _ before with
    ⟨problem, run⟩ | ⟨offer, found, run⟩
  · rw [run]
    exact updateEnds_error problem
  rw [run]
  obtain ⟨release, file⟩ := offer
  dsimp only
  by_cases current : file.sha1 = host.sha1 old
  · rw [if_pos current]
    rcases readOnly_bind_cases (readOnly_reach _) _ before with
      ⟨problem, run⟩ | ⟨_, -, run⟩
    · rw [run]
      exact updateEnds_error problem
    · rw [run]
      refine .inl ⟨rfl, fun result ended => ?_⟩
      cases ended
      rfl
  · rw [if_neg current]
    rcases readOnly_bind_cases (readOnly_lift _) _ before with
      ⟨problem, run⟩ | ⟨downloadedName, named, run⟩
    · rw [run]
      exact updateEnds_error problem
    rw [run]
    rcases readOnly_bind_cases readOnly_demandFree _ before with
      ⟨problem, run⟩ | ⟨_, checked, run⟩
    · rw [run]
      exact updateEnds_error problem
    rw [run]
    rw [lift_apply, Prod.mk.injEq] at safe named found valid
    obtain ⟨rfl, shown⟩ := isReported_of_safeFilename safe.1
    obtain ⟨rfl, reported⟩ := isReported_of_safeFilename named.1
    have present := readRegularMod_eq_ok read
    have free := demandFree_eq_ok checked
    refine .inr ⟨file, ⟨valid.1, safe.1, ⟨old, release, present, found.1,
      current⟩, named.1, free⟩, ?_⟩
    exact installRelease_settles
      ⟨shown, present, fresh.backup, free,
        targetName_ne reported (getLast?_backupName host) (by decide),
        targetName_ne reported (getLast?_pendingName host) (by decide)⟩
      restores drops

end Runs

section Safety

variable {host : UpdateHost Content} {before : ModsDirectory Content}
variable {profile filename target : String}

/-- Whatever fails, as long as the old file can be put back. -/
def UpdatesSafely (host : UpdateHost Content)
    (before : ModsDirectory Content) (profile filename : String) : Prop :=
  ∀ faults : UpdatePoint → Option String,
    faults .restore = none → faults .dropPending = none →
      OneVersion host before filename
        (updateMod host faults profile filename before)

theorem offered_holdsNew {file : UpdateFile}
    {after : ModsDirectory Content}
    (offered : Offered host before profile filename file)
    (enabled : isDisabled file.filename = false)
    (mods : listing after = listing (placed before filename
      (targetName filename file.filename) (host.download file))) :
    HoldsNew host before after filename
      (targetName filename file.filename) file := by
  obtain ⟨bytes, release, present, found, -⟩ := offered.newer
  obtain ⟨-, reported⟩ := isReported_of_safeFilename offered.named
  obtain ⟨shown, state⟩ := (targetName_fits_iff reported).mpr enabled
  refine ⟨⟨bytes, release, present, found⟩, shown, state, ?_, ?_⟩
  · refine offered.free.imp_right fun vacant => ?_
    rw [listing, if_pos shown, vacant]
  · rw [mods, placed, listing_update_file shown, listing_update_none]

theorem updateMod_places {file : UpdateFile}
    (fresh : FreshHidden host before)
    (offered : Offered host before profile filename file) :
    ∃ result after,
      updateMod host (fun _ => none) profile filename before =
        (.ok result, after) ∧ result.alreadyCurrent = false ∧
      listing after = listing (placed before filename
        (targetName filename file.filename) (host.download file)) := by
  obtain ⟨old, release, present, found, newer⟩ := offered.newer
  obtain ⟨-, shown⟩ := isReported_of_safeFilename offered.safe
  obtain ⟨-, reported⟩ := isReported_of_safeFilename offered.named
  have vacant : Vacant host before filename
      (targetName filename file.filename) old :=
    ⟨shown, present, fresh.backup, offered.free,
      targetName_ne reported (getLast?_backupName host) (by decide),
      targetName_ne reported (getLast?_pendingName host) (by decide)⟩
  have read : readRegularMod (fun _ => none) filename before =
      (.ok old, before) := by
    rw [readRegularMod, reach_bind_of_clear rfl, get_bind, present]
    rfl
  have free : demandFree (fun _ => none) filename
      (targetName filename file.filename) before = (.ok ⟨⟩, before) := by
    rw [demandFree]
    split
    · rfl
    next other =>
      rw [reach_bind_of_clear rfl, get_bind,
        offered.free.resolve_left other]
      rfl
  have installs : updateMod host (fun _ => none) profile filename before =
      installRelease host (fun _ => none) filename
        (targetName filename file.filename) release file before := by
    rw [updateMod, lift_bind, offered.profile]
    dsimp only
    rw [lift_bind, offered.safe]
    dsimp only
    rw [bind_of_ok read, reach_bind_of_clear rfl, reach_bind_of_clear rfl,
      lift_bind, found]
    dsimp only
    rw [if_neg newer, lift_bind, offered.named]
    exact bind_of_ok free _
  obtain ⟨after, ended⟩ := @installRelease_ends _ _ _ _ _ _ release file vacant
  have settled := @installRelease_settles _ host (fun _ => none) _ _ _ _
    release file vacant rfl rfl
  refine ⟨_, after, installs.trans ended, rfl, ?_⟩
  rw [ended] at settled
  exact settled.returned _ rfl

theorem not_holdsNew_of_disabled {file other : UpdateFile}
    {after : ModsDirectory Content}
    (offered : Offered host before profile filename file)
    (disabled : isDisabled file.filename = true)
    (mods : listing after = listing (placed before filename
      (targetName filename file.filename) (host.download file))) :
    ¬ HoldsNew host before after filename target other := by
  intro holds
  obtain ⟨-, reported⟩ := isReported_of_safeFilename offered.named
  have shown : listing after target = some (host.download other) := by
    rw [holds.mods, Function.update_self]
  have different : target ≠ targetName filename file.filename := by
    rintro rfl
    have enabled := (targetName_fits_iff reported).mp
      ⟨holds.reported, holds.state⟩
    rw [disabled] at enabled
    cases enabled
  have absent : listing after target = none := by
    rw [mods, listing, if_pos holds.reported, placed,
      Function.update_of_ne different]
    by_cases here : target = filename
    · rw [here, Function.update_self]
    · have vacant := holds.free.resolve_left here
      rw [listing, if_pos holds.reported] at vacant
      rw [Function.update_of_ne here]
      exact vacant
  rw [absent] at shown
  cases shown

theorem not_updatesSafely_of_disabled {file : UpdateFile}
    (fresh : FreshHidden host before)
    (offered : Offered host before profile filename file)
    (disabled : isDisabled file.filename = true) :
    ¬ UpdatesSafely host before profile filename := by
  intro safely
  obtain ⟨result, after, run, changed, mods⟩ :=
    updateMod_places fresh offered
  have one := safely (fun _ => none) rfl rfl
  rw [run] at one
  obtain ⟨target, other, holds⟩ := one.changed result rfl changed
  exact not_holdsNew_of_disabled offered disabled mods holds

/-- Updates are safe exactly if no offered file has the name of a disabled
mod. -/
theorem updatesSafely_iff
    (host : UpdateHost Content) (before : ModsDirectory Content)
    (profile filename : String) (fresh : FreshHidden host before) :
    UpdatesSafely host before profile filename ↔
      ∀ file, Offered host before profile filename file →
        isDisabled file.filename = false := by
  constructor
  · intro safely file offered
    cases disabled : isDisabled file.filename with
    | false => rfl
    | true =>
        exact absurd safely
          (not_updatesSafely_of_disabled fresh offered disabled)
  · intro enabled faults restores drops
    have ends : UpdateEnds host before profile filename
        (updateMod host faults profile filename before) :=
      updateMod_ends fresh restores drops
    rcases ends with ⟨kept, current⟩ | ⟨file, offered, settled⟩
    · refine ⟨.inl kept, fun result ended changed => ?_⟩
      rw [current result ended] at changed
      cases changed
    · have holds : ∀ after, listing after = listing (placed before filename
          (targetName filename file.filename) (host.download file)) →
            ∃ target file, HoldsNew host before after filename target file :=
        fun after mods => ⟨_, file,
          offered_holdsNew offered (enabled file offered) mods⟩
      constructor
      · exact settled.mods.imp_right (holds _)
      · exact fun result ended _ => holds _ (settled.returned result ended)

end Safety

def modHost (filename : String) : UpdateHost Nat where
  sha1 := toString
  latestFromHash := fun _ =>
    some ⟨"b", "2.0", [⟨filename, true, "2"⟩]⟩
  download := fun _ => 2
  pendingId := "1"
  backupId := "2"
  sync := true

def oneMod : ModsDirectory Nat := fun name =>
  if name = "sodium-1.jar.disabled" then some (.file 1) else none

theorem oneMod_fresh (filename : String) :
    FreshHidden (modHost filename) oneMod :=
  ⟨rfl, rfl⟩

theorem updatesSafely_sodium :
    UpdatesSafely (modHost "sodium-2.jar") oneMod "fabric"
        "sodium-1.jar.disabled" ↔
      ∀ file, Offered (modHost "sodium-2.jar") oneMod "fabric"
        "sodium-1.jar.disabled" file → isDisabled file.filename = false :=
  updatesSafely_iff (modHost "sodium-2.jar") oneMod "fabric"
    "sodium-1.jar.disabled" (oneMod_fresh _)

/-- The mod is not reported in any version. -/
theorem disabled_download_unreported :
    Offered (modHost "sodium-2.jar.disabled") oneMod "fabric"
        "sodium-1.jar.disabled" ⟨"sodium-2.jar.disabled", true, "2"⟩ ∧
      ¬ UpdatesSafely (modHost "sodium-2.jar.disabled") oneMod "fabric"
        "sodium-1.jar.disabled" := by
  have names : Servers.validateProfile "fabric" = .ok () ∧
      safeFilename "sodium-1.jar.disabled" = .ok "sodium-1.jar.disabled" ∧
      safeFilename "sodium-2.jar.disabled" = .ok "sodium-2.jar.disabled" ∧
      isDisabled "sodium-2.jar.disabled" = true ∧
      oneMod (targetName "sodium-1.jar.disabled" "sodium-2.jar.disabled") =
        none := by
    decide +kernel
  obtain ⟨profile, safe, named, disabled, free⟩ := names
  have offered : Offered (modHost "sodium-2.jar.disabled") oneMod "fabric"
      "sodium-1.jar.disabled" ⟨"sodium-2.jar.disabled", true, "2"⟩ :=
    ⟨profile, safe, ⟨1, ⟨"b", "2.0", [⟨"sodium-2.jar.disabled", true, "2"⟩]⟩,
      rfl, rfl, by decide⟩, named, .inr free⟩
  exact ⟨offered,
    not_updatesSafely_of_disabled (oneMod_fresh _) offered disabled⟩

end GravitPanel.Mods
