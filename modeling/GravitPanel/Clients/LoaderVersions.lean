import GravitPanel.Clients.LoaderInstallers

/-!
# Loader versions that are offered and found again

Which loader versions, offered for a Minecraft version, a profile with their
artifact is found to have.
-/

namespace GravitPanel.Clients

open Json Matcher JavaScript

section Letters

variable {version : String}

theorem loaderVersionPattern_letters
    (valid : loaderVersionPattern version = true) :
    version ≠ "" ∧ ∀ letter ∈ version.toList, isVersionLetter letter = true := by
  obtain ⟨nonempty, letters⟩ := isToken_letters valid
  refine ⟨nonempty, fun letter member => ?_⟩
  unfold isVersionLetter
  rw [Bool.or_eq_true, List.contains_iff_mem]
  exact letters letter member

theorem versionPattern_parts
    (valid : versionPattern version = true) :
    ∃ first second rest,
      version.toList = ['.'].intercalate (first :: second :: rest) ∧
        ∀ part ∈ first :: second :: rest,
          part ≠ [] ∧ ∀ letter ∈ part, letter.isDigit = true := by
  have whole : ['.'].intercalate (version.toList.splitOn '.') =
      version.toList := List.intercalate_splitOn '.'
  simp only [versionPattern, dotParts, Bool.and_eq_true, decide_eq_true_eq,
    List.length_map, List.all_map, List.all_eq_true, Function.comp_apply,
    isDigits, String.toList_ofList] at valid
  obtain ⟨⟨atLeast, -⟩, digits⟩ := valid
  rcases parts : version.toList.splitOn '.' with _ | ⟨first, _ | ⟨second, rest⟩⟩
  · rw [parts] at atLeast
    simp at atLeast
  · rw [parts] at atLeast
    simp at atLeast
  · rw [parts] at whole digits
    refine ⟨first, second, rest, whole.symm, fun part member => ?_⟩
    have both := digits part member
    refine ⟨?_, both.2⟩
    rintro rfl
    exact both.1 rfl

def StartsWithDigit (letters : List Char) : Prop :=
  ∃ digit rest, letters = digit :: rest ∧ digit.isDigit = true

theorem startsWithDigit_append {part : List Char} (others : List Char)
    (nonempty : part ≠ []) (digits : ∀ letter ∈ part, letter.isDigit = true) :
    StartsWithDigit (part ++ others) := by
  cases part with
  | nil => exact absurd rfl nonempty
  | cons digit rest =>
      exact ⟨digit, rest ++ others, rfl, digits digit List.mem_cons_self⟩

theorem versionPattern_letters
    (valid : versionPattern version = true) :
    StartsWithDigit version.toList ∧
      ∀ letter ∈ version.toList, isDigitOrDot letter = true := by
  obtain ⟨first, second, rest, whole, parts⟩ := versionPattern_parts valid
  have start := parts first List.mem_cons_self
  rw [whole]
  constructor
  · rw [List.intercalate_cons_cons, List.append_assoc]
    exact startsWithDigit_append _ start.1 start.2
  · have dot : isDigitOrDot '.' = true := rfl
    refine @forall_mem_intercalate _ (isDigitOrDot · = true) _ dot _
      fun part member letter inside => ?_
    rw [isDigitOrDot, (parts part member).2 letter inside, Bool.true_or]

theorem startsWithDigit_neoForgePrefix
    (valid : versionPattern version = true) :
    StartsWithDigit (neoForgePrefix version) := by
  obtain ⟨first, second, rest, whole, parts⟩ := versionPattern_parts valid
  have start := parts first List.mem_cons_self
  have next := parts second (List.mem_cons_of_mem _ List.mem_cons_self)
  rw [List.intercalate_cons_cons, List.append_assoc] at whole
  have tail : StartsWithDigit (['.'].intercalate (second :: rest)) := by
    cases rest with
    | nil =>
        rw [List.intercalate_singleton, ← List.append_nil second]
        exact startsWithDigit_append [] next.1 next.2
    | cons third others =>
        rw [List.intercalate_cons_cons, List.append_assoc]
        exact startsWithDigit_append _ next.1 next.2
  have plain : StartsWithDigit (version.toList ++ ['.']) := by
    rw [whole, List.append_assoc]
    exact startsWithDigit_append _ start.1 start.2
  have dropped : ['1', '.'].isPrefixOf version.toList = true →
      StartsWithDigit (version.toList.drop 2 ++ ['.']) := by
    rw [whole]
    rcases first with _ | ⟨one, _ | ⟨two, others⟩⟩
    · exact absurd rfl start.1
    · intro _
      obtain ⟨digit, others, same, isDigit⟩ := tail
      rw [same]
      exact ⟨digit, others ++ ['.'], rfl, isDigit⟩
    · intro prefixed
      have digit := start.2 two (by simp)
      simp only [List.cons_append, List.isPrefixOf, Bool.and_eq_true,
        beq_iff_eq] at prefixed
      rw [← prefixed.2.1] at digit
      cases digit
  unfold neoForgePrefix
  by_cases one : ['1', '.'].isPrefixOf version.toList = true
  · rw [if_pos one]
    exact dropped one
  · rw [if_neg one]
    exact plain

end Letters

section Offered

variable {repositories : LoaderRepositories}
variable {minecraftVersion loaderVersion : String}

/-- The service offers this loader version. -/
def Offered (repositories : LoaderRepositories)
    (loader : LoaderInstallerType)
    (minecraftVersion loaderVersion : String) : Prop :=
  ∃ offered, versions repositories loader minecraftVersion = .ok offered ∧
    loaderVersion ∈ offered

theorem demand_ok {condition : Bool} {problem : String} {value : Unit} :
    demand condition problem = .ok value ↔ condition = true := by
  unfold demand
  cases condition <;> simp

theorem mem_descending {upTo : String → String → Bool}
    {listed : List String} :
    loaderVersion ∈ descending upTo listed ↔ loaderVersion ∈ listed := by
  rw [descending, List.mem_reverse, List.mem_insertionSort]

theorem loaderVersionPattern_of_wellFormed {listed : List String}
    (member : loaderVersion ∈ wellFormed listed) :
    loaderVersionPattern loaderVersion = true := by
  obtain ⟨entry, present, rfl⟩ := List.mem_map.mp member
  have kept := (List.mem_filter.mp present).2
  rw [Bool.and_eq_true] at kept
  exact kept.1

theorem versionPattern_of_versions {loader : LoaderInstallerType}
    {offered : List String}
    (answered : versions repositories loader minecraftVersion =
      .ok offered) : versionPattern minecraftVersion = true := by
  obtain ⟨_, demanded, -⟩ := Program.outcome_bind_eq_ok.mp answered
  exact demand_ok.mp demanded

theorem offered_facts {loader : LoaderInstallerType}
    (offered : Offered repositories loader minecraftVersion
      loaderVersion) :
    versionPattern minecraftVersion = true ∧
      loaderVersionPattern loaderVersion = true ∧
        (loader = .neoforge →
          neoForgePrefix minecraftVersion <+: loaderVersion.toList) := by
  obtain ⟨listed, answered, member⟩ := offered
  have valid := versionPattern_of_versions answered
  obtain ⟨_, -, rest⟩ := Program.outcome_bind_eq_ok.mp answered
  cases loader with
  | forge =>
      obtain ⟨metadata, -, listing⟩ := Program.outcome_bind_eq_ok.mp rest
      cases listing
      have kept := mem_descending.mp member
      exact ⟨valid, loaderVersionPattern_of_wellFormed kept,
        fun absurdity => by cases absurdity⟩
  | neoforge =>
      obtain ⟨metadata, -, listing⟩ := Program.outcome_bind_eq_ok.mp rest
      obtain ⟨items, -, done⟩ := Program.outcome_bind_eq_ok.mp listing
      cases done
      have kept := (List.mem_filter.mp (mem_descending.mp member)).2
      rw [Bool.and_eq_true, List.isPrefixOf_iff_prefix] at kept
      exact ⟨valid, kept.2, fun _ => kept.1⟩

def installerOf (loader : LoaderInstallerType)
    (minecraftVersion loaderVersion : String) : ResolvedInstaller :=
  match loader with
  | .forge => forgeInstaller minecraftVersion loaderVersion
  | .neoforge => neoForgeInstaller minecraftVersion loaderVersion

theorem resolve_of_offered {loader : LoaderInstallerType}
    (offered : Offered repositories loader minecraftVersion
      loaderVersion) :
    resolve repositories loader minecraftVersion (some loaderVersion) =
      .ok (installerOf loader minecraftVersion loaderVersion) := by
  obtain ⟨-, pattern, -⟩ := offered_facts offered
  have nonempty := (loaderVersionPattern_letters pattern).1
  obtain ⟨listed, answered, member⟩ := offered
  have available : ∀ problem,
      demand (decide (loaderVersion ∈ listed)) problem = .ok () :=
    fun problem => demand_ok.mpr (decide_eq_true member)
  cases loader with
  | forge =>
      have asked : (some loaderVersion).filter (· ≠ "") =
          some loaderVersion := by
        rw [Option.filter_some, if_pos (decide_eq_true nonempty)]
      have requested : requestedForge repositories minecraftVersion
          (some loaderVersion) = .ok (some loaderVersion) :=
        Program.outcome_bind_eq_ok.mpr ⟨listed, answered,
          Program.outcome_bind_eq_ok.mpr ⟨(), available _, rfl⟩⟩
      have demanded : demandForge minecraftVersion (some loaderVersion) =
          .ok loaderVersion := if_pos pattern
      refine Program.outcome_bind_eq_ok.mpr ⟨some loaderVersion, ?_, ?_⟩
      · rw [asked]
        exact requested
      · exact Program.outcome_bind_eq_ok.mpr ⟨_, demanded, rfl⟩
  | neoforge =>
      have demanded : demandFirst minecraftVersion (some loaderVersion)
          listed = .ok loaderVersion := if_neg nonempty
      refine Program.outcome_bind_eq_ok.mpr ⟨listed, answered, ?_⟩
      refine Program.outcome_bind_eq_ok.mpr ⟨_, demanded, ?_⟩
      exact Program.outcome_bind_eq_ok.mpr ⟨(), available _, rfl⟩

end Offered

def directoryOf : LoaderInstallerType → List String
  | .forge => forgeDirectory
  | .neoforge => neoForgeDirectory

def otherDirectories : LoaderInstallerType → List (List String)
  | .forge => [fabricDirectory, neoForgeDirectory]
  | .neoforge => [fabricDirectory, forgeDirectory]

/-- Steps of a path, each with a slash behind it. -/
def pathText (steps : List String) : List Char :=
  steps.flatMap fun step => step.toList ++ ['/']

/-- `net/minecraftforge/forge/<version>/`, or the same for NeoForge. -/
def mavenPath (loader : LoaderInstallerType) (artifactVersion : String) :
    List Char :=
  pathText (directoryOf loader) ++ artifactVersion.toList ++ ['/']

/-- An entry of the class path that is below the directory of an artifact. -/
structure ArtifactEntry where
  before : List String
  root : String
  file : String
  after : List String

def ArtifactEntry.path (entry : ArtifactEntry) (loader : LoaderInstallerType)
    (artifactVersion : String) : String :=
  String.ofList (entry.root.toList ++ mavenPath loader artifactVersion ++
    entry.file.toList)

def joinLines (lines : List String) : List Char :=
  ['\n'].intercalate (lines.map String.toList)

def ArtifactEntry.front (entry : ArtifactEntry) : List Char :=
  joinLines (entry.before ++ [entry.root])

/-- The class path holds the artifact.  The directory of no other loader
occurs in the profile, and that of the artifact's loader does not occur before
it. -/
structure OnlyArtifact (entry : ArtifactEntry)
    (loader : LoaderInstallerType) (artifactVersion : String)
    (profile : JsonFields) : Prop where
  listed : stringItems "classPath" profile =
    entry.before ++ entry.path loader artifactVersion :: entry.after
  others : ∀ steps ∈ otherDirectories loader, ∀ tail,
    tail <:+ profileText profile → mavenDirectory steps tail = []
  leading : ∀ tail, tail <:+ entry.front → tail ≠ [] → ∀ back,
    entry.front ++ mavenPath loader artifactVersion ++ back =
        profileText profile →
      mavenDirectory (directoryOf loader)
        (tail ++ (mavenPath loader artifactVersion ++ back)) = []

section Inference

variable {loader : LoaderInstallerType}
variable {minecraftVersion loaderVersion : String}
variable {text back : List Char}

theorem joinLines_cons (line : String) {lines : List String}
    (nonempty : lines ≠ []) :
    joinLines (line :: lines) = line.toList ++ '\n' :: joinLines lines := by
  cases lines with
  | nil => exact absurd rfl nonempty
  | cons next rest =>
      rw [joinLines, List.map_cons, List.map_cons,
        List.intercalate_cons_cons, List.append_assoc]
      rfl

theorem joinLines_cut (before : List String) (left right : List Char)
    (after : List String) :
    joinLines (before ++ String.ofList (left ++ right) :: after) =
      joinLines (before ++ [String.ofList left]) ++
        joinLines (String.ofList right :: after) := by
  induction before with
  | nil =>
      have whole : joinLines [String.ofList left] = left := by
        rw [joinLines, List.map_singleton, List.intercalate_singleton,
          String.toList_ofList]
      rw [List.nil_append, List.nil_append, whole]
      cases after with
      | nil => simp [joinLines, List.intercalate_singleton]
      | cons next rest =>
          rw [joinLines_cons _ (List.cons_ne_nil _ _),
            joinLines_cons _ (List.cons_ne_nil _ _), String.toList_ofList,
            String.toList_ofList, List.append_assoc]
  | cons line rest ih =>
      rw [List.cons_append, List.cons_append,
        joinLines_cons _ (by simp), joinLines_cons _ (by simp),
        ih, List.append_assoc, List.cons_append]

theorem joinLines_singleton (letters : List Char) :
    joinLines [String.ofList letters] = letters := by
  rw [joinLines, List.map_singleton, List.intercalate_singleton,
    String.toList_ofList]

variable {entry : ArtifactEntry} {profile : JsonFields}

theorem OnlyArtifact.profileText_eq
    {artifactVersion : String}
    (only : OnlyArtifact entry loader artifactVersion profile) :
    ∃ back, entry.front ++ mavenPath loader artifactVersion ++ back =
      profileText profile := by
  have first := joinLines_cut entry.before entry.root.toList
    (mavenPath loader artifactVersion ++ entry.file.toList)
    (entry.after ++ stringItems "clientArgs" profile)
  have second := joinLines_cut [] (mavenPath loader artifactVersion)
    entry.file.toList (entry.after ++ stringItems "clientArgs" profile)
  rw [List.nil_append, List.nil_append, joinLines_singleton] at second
  rw [String.ofList_toList, second] at first
  refine ⟨_, (List.append_assoc _ _ _).trans (first.symm.trans ?_)⟩
  rw [profileText, only.listed, List.append_assoc, List.cons_append,
    ArtifactEntry.path, List.append_assoc]
  rfl

theorem mavenDirectory_pathText {steps : List String} :
    mavenDirectory steps (pathText steps ++ text) = [((), text)] := by
  have reflexive : ∀ letter, sameLetter letter letter = true :=
    fun letter => beq_self_eq_true letter.toLower
  induction steps with
  | nil => rfl
  | cons step rest ih =>
      have slash : isSeparator '/' = true := rfl
      rw [pathText, List.flatMap_cons, List.append_assoc,
        List.append_assoc, mavenDirectory,
        andThen_of_single (literal_append reflexive),
        List.singleton_append, andThen_of_single (one_cons slash)]
      exact ih

theorem versionRun_slash {letters : List Char}
    (start : StartsWithDigit letters)
    (members : ∀ letter ∈ letters, isVersionLetter letter = true) :
    ∃ others, versionRun (letters ++ '/' :: back) =
      (letters, '/' :: back) :: others := by
  obtain ⟨digit, rest, rfl, isDigit⟩ := start
  rw [List.forall_mem_cons] at members
  have stops : Stops isVersionLetter ('/' :: back) := by
    rintro letter ⟨⟩
    decide
  exact run_append isDigit members.2 stops

theorem isVersionLetter_of_isDigitOrDot {letter : Char}
    (allowed : isDigitOrDot letter = true) :
    isVersionLetter letter = true := by
  rw [isDigitOrDot, Bool.or_eq_true] at allowed
  rcases allowed with digit | dot
  · have alphanumeric : (letter.isAlpha || letter.isDigit) = true := by
      rw [digit, Bool.or_true]
    have alphanumeric : letter.isAlphanum = true := alphanumeric
    rw [isVersionLetter, alphanumeric, Bool.true_or]
  · rw [beq_iff_eq] at dot
    rw [dot]
    rfl

theorem minecraftPrefix_dash {letters : List Char}
    (start : StartsWithDigit letters)
    (members : ∀ letter ∈ letters, isDigitOrDot letter = true) :
    minecraftPrefix (letters ++ '-' :: text) = [('-', text)] := by
  obtain ⟨digit, rest, rfl, -⟩ := start
  rw [List.forall_mem_cons] at members
  have outside : isDigitOrDot '-' = false := rfl
  rw [minecraftPrefix, List.cons_append,
    andThen_of_single (one_cons members.1)]
  exact many_one members.2 outside

def forgeCapture (minecraftVersion : String) (version : List Char) :
    List Char :=
  if version.head?.any Char.isDigit then version
  else minecraftVersion.toList ++ '-' :: version

theorem forgePattern_path (valid : versionPattern minecraftVersion = true)
    {version : List Char} (nonempty : version ≠ [])
    (members : ∀ letter ∈ version, isVersionLetter letter = true) :
    ∃ others, forgePattern (pathText forgeDirectory ++
        (minecraftVersion.toList ++ '-' :: (version ++ '/' :: back))) =
      (forgeCapture minecraftVersion version, '/' :: back) :: others := by
  obtain ⟨start, digits⟩ := versionPattern_letters valid
  have dash := @minecraftPrefix_dash (version ++ '/' :: back)
    minecraftVersion.toList start digits
  have choices : optional minecraftPrefix
      (minecraftVersion.toList ++ '-' :: (version ++ '/' :: back)) =
        [((), version ++ '/' :: back),
          ((), minecraftVersion.toList ++
            '-' :: (version ++ '/' :: back))] := by
    rw [Matcher.optional, dash]
    rfl
  rw [forgePattern, andThen_of_single mavenDirectory_pathText, andThen,
    choices]
  cases version with
  | nil => exact absurd rfl nonempty
  | cons letter rest =>
      unfold forgeCapture
      by_cases digit : letter.isDigit = true
      · obtain ⟨others, matched⟩ := @versionRun_slash back (letter :: rest)
          ⟨letter, rest, rfl, digit⟩ members
        rw [List.flatMap_cons, matched, if_pos (by simpa using digit)]
        exact ⟨_, rfl⟩
      · have notDigit : letter.isDigit = false := eq_false_of_ne_true digit
        have stops : Stops Char.isDigit (letter :: rest ++ '/' :: back) := by
          rintro other ⟨⟩
          exact notDigit
        have whole : ∀ other ∈
            minecraftVersion.toList ++ '-' :: letter :: rest,
            isVersionLetter other = true := by
          intro other member
          rcases List.mem_append.mp member with early | late
          · exact isVersionLetter_of_isDigitOrDot (digits other early)
          · rcases List.mem_cons.mp late with rfl | late
            · rfl
            · exact members other late
        obtain ⟨first, others, same, isDigit⟩ := start
        obtain ⟨more, matched⟩ := @versionRun_slash back
          (minecraftVersion.toList ++ '-' :: letter :: rest)
          ⟨first, others ++ '-' :: letter :: rest, by rw [same]; rfl,
            isDigit⟩ whole
        rw [List.append_assoc, List.cons_append] at matched
        rw [List.flatMap_cons, versionRun, run_of_stops stops,
          List.nil_append, List.flatMap_singleton, ← versionRun, matched,
          if_neg (by simpa using notDigit)]
        exact ⟨_, rfl⟩

/-- The loader version and what a legacy artifact has behind it. -/
def forgeRest (minecraftVersion loaderVersion : String) : List Char :=
  if isLegacy minecraftVersion then
    loaderVersion.toList ++ '-' :: minecraftVersion.toList
  else
    loaderVersion.toList

theorem forgeArtifactVersion_toList :
    (forgeArtifactVersion minecraftVersion loaderVersion).toList =
      minecraftVersion.toList ++
        '-' :: forgeRest minecraftVersion loaderVersion := by
  have dash : "-".toList = ['-'] := by decide
  unfold forgeArtifactVersion forgeRest
  cases isLegacy minecraftVersion <;>
    simp [String.toList_append, dash]

theorem forgeCapture_eq_iff :
    forgeCapture minecraftVersion
        (forgeRest minecraftVersion loaderVersion) = loaderVersion.toList ↔
      isLegacy minecraftVersion = false ∧
        loaderVersion.toList.head?.any Char.isDigit = true := by
  have longer : ∀ letters : List Char,
      letters.length ≠ loaderVersion.toList.length →
        letters ≠ loaderVersion.toList :=
    fun letters different same => different (congrArg List.length same)
  unfold forgeCapture forgeRest
  cases isLegacy minecraftVersion with
  | false =>
      rw [if_neg Bool.false_ne_true]
      by_cases digit : loaderVersion.toList.head?.any Char.isDigit = true
      · rw [if_pos digit]
        exact iff_of_true rfl ⟨rfl, digit⟩
      · rw [if_neg digit]
        refine iff_of_false (longer _ ?_) fun both => digit both.2
        rw [List.length_append, List.length_cons]
        omega
  | true =>
      rw [if_pos rfl]
      refine iff_of_false ?_ fun both => Bool.true_eq_false.mp both.1
      split
      · refine longer _ ?_
        rw [List.length_append, List.length_cons]
        omega
      · refine longer _ ?_
        rw [List.length_append, List.length_cons, List.length_append,
          List.length_cons]
        omega

variable {Value : Type} {next : Unit → Matcher Value}

theorem search_absent {steps : List String}
    (absent : ∀ tail, tail <:+ text → mavenDirectory steps tail = []) :
    search (andThen (mavenDirectory steps) next) text = none :=
  search_of_nil fun tail suffix => andThen_of_nil (absent tail suffix)

theorem OnlyArtifact.search_eq
    {artifactVersion : String}
    (only : OnlyArtifact entry loader artifactVersion profile)
    {value : Value}
    (captured : ∀ back, ∃ others,
      andThen (mavenDirectory (directoryOf loader)) next
          (mavenPath loader artifactVersion ++ back) =
        (value, '/' :: back) :: others) :
    search (andThen (mavenDirectory (directoryOf loader)) next)
      (profileText profile) = some value := by
  obtain ⟨back, same⟩ := only.profileText_eq
  obtain ⟨others, matched⟩ := captured back
  have leading := only.leading
  rw [← same, List.append_assoc, search_append]
  · exact search_of_cons matched
  · exact fun tail suffix nonempty =>
      andThen_of_nil (leading tail suffix nonempty back same)

theorem infer_neoForge
    (only : OnlyArtifact entry .neoforge loaderVersion profile)
    (start : StartsWithDigit loaderVersion.toList)
    (members : ∀ letter ∈ loaderVersion.toList,
      isVersionLetter letter = true) :
    inferProfileLoaderVersion profile = some loaderVersion := by
  have fabric : search fabricPattern (profileText profile) = none :=
    search_absent (only.others _ (by simp [otherDirectories]))
  have found : search neoForgePattern (profileText profile) =
      some loaderVersion.toList := by
    refine only.search_eq fun back => ?_
    obtain ⟨others, matched⟩ := @versionRun_slash back _ start members
    refine ⟨others, ?_⟩
    rw [mavenPath, List.append_assoc, List.append_assoc,
      andThen_of_single mavenDirectory_pathText]
    exact matched
  rw [inferProfileLoaderVersion, loaderPatterns, List.findSome?_cons,
    fabric, List.findSome?_cons, found]
  exact congrArg some String.ofList_toList

theorem infer_forge
    (only : OnlyArtifact entry .forge
      (forgeArtifactVersion minecraftVersion loaderVersion) profile)
    (valid : versionPattern minecraftVersion = true)
    (nonempty : loaderVersion ≠ "")
    (members : ∀ letter ∈ loaderVersion.toList,
      isVersionLetter letter = true) :
    inferProfileLoaderVersion profile =
      some (String.ofList (forgeCapture minecraftVersion
        (forgeRest minecraftVersion loaderVersion))) := by
  have fabric : search fabricPattern (profileText profile) = none :=
    search_absent (only.others _ (by simp [otherDirectories]))
  have neoForge : search neoForgePattern (profileText profile) = none :=
    search_absent (only.others _ (by simp [otherDirectories]))
  have present : loaderVersion.toList ≠ [] := by
    rwa [Ne, String.toList_eq_nil_iff]
  have digits := (versionPattern_letters valid).2
  have rest : forgeRest minecraftVersion loaderVersion ≠ [] ∧
      ∀ letter ∈ forgeRest minecraftVersion loaderVersion,
        isVersionLetter letter = true := by
    unfold forgeRest
    split
    · refine ⟨by simp, fun letter member => ?_⟩
      rcases List.mem_append.mp member with early | late
      · exact members letter early
      · rcases List.mem_cons.mp late with rfl | late
        · rfl
        · exact isVersionLetter_of_isDigitOrDot (digits letter late)
    · exact ⟨present, members⟩
  have found : search forgePattern (profileText profile) =
      some (forgeCapture minecraftVersion
        (forgeRest minecraftVersion loaderVersion)) := by
    refine only.search_eq fun back => ?_
    obtain ⟨others, matched⟩ := @forgePattern_path _ back valid _ rest.1
      rest.2
    refine ⟨others, ?_⟩
    rw [mavenPath, List.append_assoc, List.append_assoc,
      forgeArtifactVersion_toList, List.append_assoc, List.cons_append]
    exact matched
  rw [inferProfileLoaderVersion, loaderPatterns, List.findSome?_cons,
    fabric, List.findSome?_cons, neoForge, List.findSome?_cons, found]
  rfl

end Inference

/-- A Forge version of a Minecraft version after 1.10 that begins with a
digit, or any NeoForge version. -/
def Inferable (loader : LoaderInstallerType)
    (minecraftVersion loaderVersion : String) : Prop :=
  loader = .forge → isMinecraftAtMost minecraftVersion "1.10" = false ∧
    loaderVersion.toList.head?.any Char.isDigit = true

/-- What is offered resolves, and a profile with the resolved artifact is found
to have the exact version if and only if it is inferable. -/
theorem offered_inferred_iff (repositories : LoaderRepositories)
    (loader : LoaderInstallerType) (minecraftVersion loaderVersion : String)
    (offered : Offered repositories loader minecraftVersion
      loaderVersion) :
    ∃ resolved, resolve repositories loader minecraftVersion
        (some loaderVersion) = .ok resolved ∧
      ∀ profile entry,
        OnlyArtifact entry loader resolved.artifactVersion profile →
          (inferProfileLoaderVersion profile = some loaderVersion ↔
            Inferable loader minecraftVersion loaderVersion) := by
  obtain ⟨valid, pattern, listed⟩ := offered_facts offered
  obtain ⟨nonempty, members⟩ := loaderVersionPattern_letters pattern
  refine ⟨_, resolve_of_offered offered, fun profile entry only => ?_⟩
  cases loader with
  | neoforge =>
      obtain ⟨rest, same⟩ := listed rfl
      obtain ⟨digit, others, begins, isDigit⟩ :=
        startsWithDigit_neoForgePrefix valid
      have start : StartsWithDigit loaderVersion.toList := by
        rw [← same, begins]
        exact ⟨digit, others ++ rest, rfl, isDigit⟩
      refine iff_of_true (infer_neoForge only start members) ?_
      exact fun absurdity => by cases absurdity
  | forge =>
      rw [infer_forge only valid nonempty members, Option.some.injEq,
        ← String.toList_inj, String.toList_ofList, forgeCapture_eq_iff]
      exact ⟨fun both _ => both, fun inferable => inferable rfl⟩

theorem offered_neoForge {repositories : LoaderRepositories}
    {minecraftVersion loaderVersion : String} {items : List Json}
    (valid : versionPattern minecraftVersion = true)
    (answered : repositories.neoForgeVersions =
      .ok (.object [("versions", .array items)]))
    (member : loaderVersion ∈ neoForgeListed minecraftVersion items) :
    Offered repositories .neoforge minecraftVersion loaderVersion := by
  refine ⟨descending repositories.upTo
      (neoForgeListed minecraftVersion items),
    Program.outcome_bind_eq_ok.mpr ⟨(), demand_ok.mpr valid, ?_⟩,
    mem_descending.mpr member⟩
  refine Program.outcome_bind_eq_ok.mpr ⟨_, answered, ?_⟩
  exact Program.outcome_bind_eq_ok.mpr ⟨items, rfl, rfl⟩

theorem offered_forge {repositories : LoaderRepositories}
    {minecraftVersion loaderVersion metadata : String}
    (valid : versionPattern minecraftVersion = true)
    (answered : repositories.forgeMetadata = .ok metadata)
    (member : loaderVersion ∈ forgeListed minecraftVersion metadata) :
    Offered repositories .forge minecraftVersion loaderVersion := by
  refine ⟨descending repositories.upTo (forgeListed minecraftVersion metadata),
    Program.outcome_bind_eq_ok.mpr ⟨(), demand_ok.mpr valid, ?_⟩,
    mem_descending.mpr member⟩
  exact Program.outcome_bind_eq_ok.mpr ⟨metadata, answered, rfl⟩

def sampleRepositories : LoaderRepositories where
  neoForgeVersions := .ok (.object [("versions", .array
    [.string "21.1.100", .string "21.2.1", .string "21.1.244"])])
  forgeMetadata := .ok
    "<versions><version>1.7.10-10.13.4.1614-1.7.10</version></versions>"
  forgePromotions := .error "HTTP 500"
  text := fun _ => .error "HTTP 404"
  bytes := fun _ => .error "HTTP 404"
  sha256 := fun _ => ""
  upTo := fun left right => left ≤ right

def classPathProfile (entry : String) : JsonFields :=
  [("classPath", .array [.string entry])]

def neoForgeEntry : ArtifactEntry :=
  ⟨[], "/", "neoforge-21.1.244.jar", []⟩

def legacyEntry : ArtifactEntry :=
  ⟨[], "/", "forge-1.7.10-10.13.4.1614-1.7.10.jar", []⟩

theorem onlyArtifact_of_absent {entry : ArtifactEntry}
    {loader : LoaderInstallerType} {artifactVersion : String}
    (alone : entry.before = [] ∧ entry.after = [])
    (root : entry.root = "/")
    (absent : (otherDirectories loader).all fun steps =>
      (profileText (classPathProfile
        (entry.path loader artifactVersion))).tails.all fun tail =>
          (mavenDirectory steps tail).isEmpty) :
    OnlyArtifact entry loader artifactVersion
      (classPathProfile (entry.path loader artifactVersion)) := by
  simp only [List.all_eq_true, List.mem_tails, List.isEmpty_iff] at absent
  refine ⟨by rw [alone.1, alone.2]; rfl, absent, ?_⟩
  intro tail suffix nonempty back _
  have front : entry.front = ['/'] := by
    rw [ArtifactEntry.front, alone.1, root]
    rfl
  rw [front, List.suffix_cons_iff] at suffix
  rcases suffix with rfl | empty
  · cases loader <;> rfl
  · exact absurd (List.suffix_nil.mp empty) nonempty

theorem sample_neoForge_found :
    inferProfileLoaderVersion (classPathProfile
      (neoForgeEntry.path .neoforge "21.1.244")) = some "21.1.244" := by
  have offered : Offered sampleRepositories .neoforge "1.21.1" "21.1.244" :=
    offered_neoForge (by decide +kernel) rfl (by decide +kernel)
  obtain ⟨resolved, resolves, found⟩ :=
    offered_inferred_iff _ _ _ _ offered
  rw [resolve_of_offered offered] at resolves
  cases resolves
  refine (found _ neoForgeEntry (onlyArtifact_of_absent ⟨rfl, rfl⟩ rfl
    (by decide +kernel))).mpr ?_
  exact fun absurdity => by cases absurdity

/-- The legacy version is offered without the Minecraft version behind it, and
found with it. -/
theorem legacy_forge_not_found :
    Offered sampleRepositories .forge "1.7.10" "10.13.4.1614" ∧
      resolve sampleRepositories .forge "1.7.10" (some "10.13.4.1614") =
        .ok (forgeInstaller "1.7.10" "10.13.4.1614") ∧
      OnlyArtifact legacyEntry .forge
        (forgeInstaller "1.7.10" "10.13.4.1614").artifactVersion
        (classPathProfile (legacyEntry.path .forge
          (forgeInstaller "1.7.10" "10.13.4.1614").artifactVersion)) ∧
      inferProfileLoaderVersion (classPathProfile (legacyEntry.path .forge
          (forgeInstaller "1.7.10" "10.13.4.1614").artifactVersion)) ≠
        some "10.13.4.1614" := by
  have offered : Offered sampleRepositories .forge "1.7.10"
      "10.13.4.1614" :=
    offered_forge (by decide +kernel) rfl (by decide +kernel)
  refine ⟨offered, resolve_of_offered offered, ?_, by decide +kernel⟩
  exact onlyArtifact_of_absent ⟨rfl, rfl⟩ rfl (by decide +kernel)

end GravitPanel.Clients
