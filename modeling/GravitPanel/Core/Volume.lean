import GravitPanel.Core.Program

/-!
# Volumes

A volume holds files and directories by their paths.  A program on it passes
points at which it may fail; an operation that fails changes nothing.
-/

namespace GravitPanel

open Program

structure Volume (Content : Type) where
  file : String → Option Content
  directory : String → Option (List (String × Content))

namespace Volume

variable {Content : Type}

def setFile (path : String) (bytes : Option Content)
    (volume : Volume Content) : Volume Content :=
  { volume with
    file := fun other => if other = path then bytes else volume.file other }

def setDirectory (path : String)
    (files : Option (List (String × Content))) (volume : Volume Content) :
    Volume Content :=
  { volume with
    directory := fun other =>
      if other = path then files else volume.directory other }

@[simp]
theorem file_setFile_self (path : String) (bytes : Option Content)
    (volume : Volume Content) : (volume.setFile path bytes).file path = bytes :=
  if_pos rfl

theorem file_setFile_of_ne {path other : String} (different : other ≠ path)
    (bytes : Option Content) (volume : Volume Content) :
    (volume.setFile path bytes).file other = volume.file other :=
  if_neg different

@[simp]
theorem directory_setFile (path : String) (bytes : Option Content)
    (volume : Volume Content) :
    (volume.setFile path bytes).directory = volume.directory := rfl

@[simp]
theorem directory_setDirectory_self (path : String)
    (files : Option (List (String × Content))) (volume : Volume Content) :
    (volume.setDirectory path files).directory path = files :=
  if_pos rfl

theorem directory_setDirectory_of_ne
    {path other : String} (different : other ≠ path)
    (files : Option (List (String × Content))) (volume : Volume Content) :
    (volume.setDirectory path files).directory other =
      volume.directory other :=
  if_neg different

@[simp]
theorem file_setDirectory (path : String)
    (files : Option (List (String × Content))) (volume : Volume Content) :
    (volume.setDirectory path files).file = volume.file := rfl

section Operations

variable {Point : Type} (faults : Point → Option String)

/-- The error at the first point that fails. -/
def firstFault (points : List Point) : Except String Unit :=
  match points.findSome? faults with
  | none => .ok ()
  | some problem => .error problem

/-- Pass points at which the program may fail. -/
def passAll (points : List Point) : Program (Volume Content) String Unit :=
  lift (firstFault faults points)

def pass (point : Point) : Program (Volume Content) String Unit :=
  passAll faults [point]

/-- Pass a point for each of so many items. -/
def passEach (point : Nat → Point) (count : Nat) :
    Program (Volume Content) String Unit :=
  passAll faults ((List.range count).map point)

def existsFile (point : Point) (path : String) :
    Program (Volume Content) String Bool := do
  pass faults point
  let volume ← get
  pure (volume.file path).isSome

def existsDirectory (point : Point) (path : String) :
    Program (Volume Content) String Bool := do
  pass faults point
  let volume ← get
  pure (volume.directory path).isSome

def readFile (point : Point) (path : String) :
    Program (Volume Content) String Content := do
  pass faults point
  let volume ← get
  lift (match volume.file path with
    | none => .error "read volume file"
    | some bytes => .ok bytes)

def writeFileAtomic (point : Point) (path : String) (bytes : Content) :
    Program (Volume Content) String Unit := do
  pass faults point
  update (setFile path (some bytes))

def copyFile (point : Point) (source target : String) :
    Program (Volume Content) String Unit := do
  pass faults point
  update fun volume => volume.setFile target (volume.file source)

def moveDirectory (point : Point) (source target : String) :
    Program (Volume Content) String Unit := do
  pass faults point
  update fun volume =>
    (volume.setDirectory target (volume.directory source)).setDirectory
      source none

def removeFile (point : Point) (path : String) :
    Program (Volume Content) String Unit := do
  pass faults point
  update (setFile path none)

def removeDirectory (point : Point) (path : String) :
    Program (Volume Content) String Unit := do
  pass faults point
  update (setDirectory path none)

end Operations

def OfFile (path : String) (holds : Option Content → Prop)
    (volume : Volume Content) : Prop :=
  holds (volume.file path)

section Frames

variable {Point : Type} {faults : Point → Option String}
variable {path : String} {holds : Option Content → Prop}
variable {invariant : Volume Content → Prop}

theorem keeps_passAll
    (points : List Point) : Keeps invariant (passAll faults points) :=
  keeps_lift _

theorem keeps_pass (point : Point) :
    Keeps invariant (pass faults point) :=
  keeps_lift _

theorem keeps_existsFile
    (point : Point) (other : String) :
    Keeps invariant (existsFile faults point other) :=
  (keeps_pass point).bind fun _ => keeps_get.bind fun _ => keeps_pure _

theorem keeps_existsDirectory
    (point : Point) (other : String) :
    Keeps invariant (existsDirectory faults point other) :=
  (keeps_pass point).bind fun _ => keeps_get.bind fun _ => keeps_pure _

theorem keeps_readFile
    (point : Point) (other : String) :
    Keeps invariant (readFile faults point other) :=
  (keeps_pass point).bind fun _ => keeps_get.bind fun _ => keeps_lift _

theorem ofFile_setFile {other : String} (different : path ≠ other)
    (bytes : Option Content) {volume : Volume Content}
    (before : OfFile path holds volume) :
    OfFile path holds (volume.setFile other bytes) := by
  rw [OfFile, file_setFile_of_ne different]
  exact before

theorem keeps_setFile {other : String} (different : path ≠ other)
    (bytes : Option Content) :
    Keeps (OfFile path holds)
      (update (setFile other bytes) : Program (Volume Content) String Unit) :=
  keeps_update fun _ before => ofFile_setFile different bytes before

theorem keeps_writeFileAtomic {other : String} (different : path ≠ other)
    (point : Point) (bytes : Content) :
    Keeps (OfFile path holds)
      (writeFileAtomic faults point other bytes) :=
  (keeps_pass point).bind fun _ => keeps_setFile different _

theorem keeps_writeFileAtomic_self (point : Point) {bytes : Content}
    (written : holds (some bytes)) :
    Keeps (OfFile path holds) (writeFileAtomic faults point path bytes) := by
  refine (keeps_pass point).bind fun _ => keeps_update fun volume _ => ?_
  rw [OfFile, file_setFile_self]
  exact written

theorem keeps_removeFile {other : String} (different : path ≠ other)
    (point : Point) :
    Keeps (OfFile path holds) (removeFile faults point other) :=
  (keeps_pass point).bind fun _ => keeps_setFile different _

theorem keeps_removeDirectory (point : Point) (other : String) :
    Keeps (OfFile path holds) (removeDirectory faults point other) :=
  (keeps_pass point).bind fun _ => keeps_update fun _ before => before

end Frames

section Ends

variable {Point Result : Type} {faults : Point → Option String}
variable {volume final : Volume Content} {result : Result}
variable {point : Point} {next : Unit → Program (Volume Content) String Result}

theorem firstFault_eq_ok {points : List Point} {value : Unit} :
    firstFault faults points = .ok value ↔
      ∀ point ∈ points, faults point = none := by
  rw [← List.findSome?_eq_none_iff, firstFault]
  cases points.findSome? faults <;> simp

theorem pass_of_fault
    {problem : String} (fault : faults point = some problem)
    (volume : Volume Content) :
    pass faults point volume = (.error problem, volume) := by
  rw [pass, passAll, lift_apply, firstFault, List.findSome?_singleton, fault]

theorem passAll_bind_eq_ok
    {points : List Point} :
    (passAll faults points >>= next) volume = (.ok result, final) ↔
      (∀ point ∈ points, faults point = none) ∧
        next () volume = (.ok result, final) := by
  rw [passAll, lift_bind_eq_ok]
  constructor
  · rintro ⟨value, passed, run⟩
    exact ⟨firstFault_eq_ok.mp passed, run⟩
  · rintro ⟨clear, run⟩
    exact ⟨(), firstFault_eq_ok.mpr clear, run⟩

theorem pass_eq_ok {value : Unit} :
    pass faults point volume = (.ok value, final) ↔
      faults point = none ∧ volume = final := by
  rw [pass, passAll, lift_apply, Prod.mk.injEq, firstFault_eq_ok,
    List.forall_mem_singleton]

theorem pass_bind_eq_ok
    :
    (pass faults point >>= next) volume = (.ok result, final) ↔
      faults point = none ∧ next () volume = (.ok result, final) := by
  rw [pass, passAll_bind_eq_ok, List.forall_mem_singleton]

theorem passEach_bind_eq_ok
    {point : Nat → Point} {count : Nat}
    :
    (passEach faults point count >>= next) volume = (.ok result, final) ↔
      (∀ index < count, faults (point index) = none) ∧
        next () volume = (.ok result, final) := by
  rw [passEach, passAll_bind_eq_ok]
  simp only [List.forall_mem_map, List.mem_range]

theorem existsFile_bind_eq_ok
    {path : String}
    {next : Bool → Program (Volume Content) String Result} :
    (existsFile faults point path >>= next) volume = (.ok result, final) ↔
      faults point = none ∧
        next (volume.file path).isSome volume = (.ok result, final) := by
  rw [existsFile, bind_bind, pass_bind_eq_ok]
  exact Iff.rfl

theorem existsDirectory_bind_eq_ok
    {path : String}
    {next : Bool → Program (Volume Content) String Result} :
    (existsDirectory faults point path >>= next) volume =
        (.ok result, final) ↔
      faults point = none ∧
        next (volume.directory path).isSome volume =
          (.ok result, final) := by
  rw [existsDirectory, bind_bind, pass_bind_eq_ok]
  exact Iff.rfl

theorem readFile_bind_eq_ok
    {path : String}
    {next : Content → Program (Volume Content) String Result} :
    (readFile faults point path >>= next) volume = (.ok result, final) ↔
      faults point = none ∧ ∃ bytes, volume.file path = some bytes ∧
        next bytes volume = (.ok result, final) := by
  rw [readFile, bind_bind, pass_bind_eq_ok]
  refine and_congr_right fun _ => ?_
  rw [bind_bind, get_bind, lift_bind_eq_ok]
  cases volume.file path <;> simp

theorem update_bind_eq_ok
    {change : Volume Content → Volume Content}
    :
    ((pass faults point >>= fun _ => update change) >>= next) volume =
        (.ok result, final) ↔
      faults point = none ∧
        next () (change volume) = (.ok result, final) := by
  rw [bind_bind, pass_bind_eq_ok]
  exact Iff.rfl

theorem writeFileAtomic_bind_eq_ok
    {path : String} {bytes : Content}
    :
    (writeFileAtomic faults point path bytes >>= next) volume =
        (.ok result, final) ↔
      faults point = none ∧
        next () (volume.setFile path (some bytes)) = (.ok result, final) :=
  update_bind_eq_ok

end Ends

section Throws

variable {Point Result : Type} {faults : Point → Option String}
variable {good : Volume Content → Prop} {volume : Volume Content}
variable {point : Point} {next : Unit → Program (Volume Content) String Result}

theorem throwsInto_pass :
    ThrowsInto good (pass faults point) volume ↔
      (faults point ≠ none → good volume) := by
  rw [pass, passAll, throwsInto_lift, firstFault, List.findSome?_singleton]
  cases faults point <;> simp

theorem throwsInto_pass_bind
    :
    ThrowsInto good (pass faults point >>= next) volume ↔
      (faults point ≠ none → good volume) ∧
        (faults point = none → ThrowsInto good (next ()) volume) := by
  rw [throwsInto_bind, throwsInto_pass]
  refine and_congr_right fun _ => ?_
  constructor
  · exact fun rest clear => rest () volume (pass_eq_ok.mpr ⟨clear, rfl⟩)
  · rintro rest value reached run
    obtain ⟨clear, rfl⟩ := pass_eq_ok.mp run
    exact rest clear

theorem throwsInto_existsFile_bind
    {path : String}
    {next : Bool → Program (Volume Content) String Result} :
    ThrowsInto good (existsFile faults point path >>= next) volume ↔
      (faults point ≠ none → good volume) ∧
        (faults point = none →
          ThrowsInto good (next (volume.file path).isSome) volume) := by
  rw [existsFile, bind_bind]
  exact throwsInto_pass_bind

theorem throwsInto_existsDirectory_bind
    {path : String}
    {next : Bool → Program (Volume Content) String Result} :
    ThrowsInto good (existsDirectory faults point path >>= next) volume ↔
      (faults point ≠ none → good volume) ∧
        (faults point = none →
          ThrowsInto good (next (volume.directory path).isSome) volume) := by
  rw [existsDirectory, bind_bind]
  exact throwsInto_pass_bind

theorem throwsInto_change_bind
    {change : Volume Content → Volume Content}
    :
    ThrowsInto good
        ((pass faults point >>= fun _ => update change) >>= next) volume ↔
      (faults point ≠ none → good volume) ∧
        (faults point = none →
          ThrowsInto good (next ()) (change volume)) := by
  rw [bind_bind]
  exact throwsInto_pass_bind

end Throws

end Volume

end GravitPanel
