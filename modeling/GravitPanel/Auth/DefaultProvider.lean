import GravitPanel.Core.Execution
import GravitPanel.Auth.ProviderSettings

/-!
# One default provider

What the calls of `applyProvider` leave of `LaunchServer.json`: the addressed
provider has the settings of its request, the other providers and keys stay,
and one provider is the default as long as no call clears its flag.
-/

namespace GravitPanel.Auth

open GravitPanel.Execution
open Program Json LauncherDockered

def provider (config : JsonFields) (id : String) : Option JsonFields :=
  ((authOf config).bind (getField id)).bind fields?

def IsDefault (config : JsonFields) (id : String) : Prop :=
  (provider config id).bind (getField "isDefault") = some (.bool true)

def OneDefault (config : JsonFields) : Prop :=
  ∃! id, IsDefault config id

/-- The configuration has providers, and all of them are objects. -/
def WellFormed (config : JsonFields) : Prop :=
  ∃ auth, authOf config = some auth ∧
    ∀ entry ∈ auth, ∃ pair, entry.2 = .object pair

def SameApartDefault (first second : Option JsonFields) : Prop :=
  first.isSome = second.isSome ∧
    ∀ key, key ≠ "isDefault" →
      first.bind (getField key) = second.bind (getField key)

def coreBefore (config : JsonFields) (id : String) : Json :=
  ((provider config id).bind (getField "core")).getD .null

/-- What a call that writes the provider leaves. -/
structure Applied
    (environment : AuthEnvironment) (input : AuthProviderApplyInput)
    (before after : JsonFields) : Prop where
  settings : ∃ pair, provider after input.authId = some pair ∧
    HasSettings pair (requestedSettings environment input
      (coreBefore before input.authId))
  others : ∀ id, id ≠ input.authId →
    SameApartDefault (provider before id) (provider after id)
  keys : ∀ key, key ≠ "auth" →
    getField key (withoutPublicUrls after) =
      getField key (withoutPublicUrls before)

theorem mem_of_getField
    {key : String} {value : Json} {fields : JsonFields}
    (found : getField key fields = some value) : (key, value) ∈ fields := by
  induction fields with
  | nil => cases found
  | cons field rest ih =>
      rw [getField] at found
      by_cases same : field.1 = key
      · rw [if_pos same] at found
        cases found
        rw [← same]
        exact List.mem_cons_self
      · rw [if_neg same] at found
        exact List.mem_cons_of_mem field (ih found)

section Next

variable {input : AuthProviderApplyInput} {pair auth config : JsonFields}

theorem authOf_nextConfig :
    authOf (nextConfig input pair auth config) =
      some (setField input.authId (.object pair)
        (clearedAuth input auth)) := by
  rw [authOf, nextConfig, getField_setField_self]
  rfl

variable {id : String}

theorem getField_clearedAuth (different : id ≠ input.authId) :
    getField id (clearedAuth input auth) =
      if input.isDefault then (getField id auth).map clearDefault
      else getField id auth := by
  unfold clearedAuth
  by_cases wanted : input.isDefault = true
  · rw [if_pos wanted, if_pos wanted]
    induction auth with
    | nil => rfl
    | cons entry rest ih =>
        rw [List.map_cons, getField, getField, ih]
        by_cases addressed : entry.1 = input.authId
        · have other : entry.1 ≠ id := fun equal =>
            different (equal.symm.trans addressed)
          rw [if_pos addressed, if_neg other, if_neg other]
        · rw [if_neg addressed]
          by_cases same : entry.1 = id
          · rw [if_pos same, if_pos same]
            rfl
          · rw [if_neg same, if_neg same]
  · rw [if_neg wanted, if_neg wanted]

theorem provider_nextConfig_self :
    provider (nextConfig input pair auth config) input.authId =
      some pair := by
  rw [provider, authOf_nextConfig, Option.bind_some,
    getField_setField_self]
  rfl

theorem provider_nextConfig_of_ne
    (different : id ≠ input.authId)
    (known : authOf config = some auth) :
    provider (nextConfig input pair auth config) id =
      if input.isDefault then
        (getField id auth).bind fun value => (clearDefault value).fields?
      else provider config id := by
  rw [provider, authOf_nextConfig, Option.bind_some,
    getField_setField_of_ne different, getField_clearedAuth different]
  by_cases wanted : input.isDefault = true
  · rw [if_pos wanted, if_pos wanted]
    cases getField id auth <;> rfl
  · rw [if_neg wanted, if_neg wanted, provider, known, Option.bind_some]

theorem wellFormed_provider
    {value : Json} (formed : WellFormed config)
    (known : authOf config = some auth) (found : getField id auth = some value) :
    ∃ fields, value = .object fields := by
  obtain ⟨same, whole, objects⟩ := formed
  rw [known] at whole
  cases whole
  exact objects _ (mem_of_getField found)

theorem others_nextConfig
    (formed : WellFormed config) (known : authOf config = some auth)
    (different : id ≠ input.authId) :
    SameApartDefault (provider config id)
      (provider (nextConfig input pair auth config) id) := by
  rw [provider_nextConfig_of_ne different known]
  by_cases wanted : input.isDefault = true
  · rw [if_pos wanted, provider, known, Option.bind_some]
    cases found : getField id auth with
    | none => exact ⟨rfl, fun key _ => rfl⟩
    | some value =>
        obtain ⟨fields, rfl⟩ := wellFormed_provider formed known found
        refine ⟨rfl, fun key other => ?_⟩
        exact (getField_setField_of_ne other _ fields).symm
  · rw [if_neg wanted]
    exact ⟨rfl, fun key _ => rfl⟩

theorem wellFormed_nextConfig
    (formed : WellFormed config) (known : authOf config = some auth) :
    WellFormed (nextConfig input pair auth config) := by
  obtain ⟨same, whole, objects⟩ := formed
  rw [known] at whole
  cases whole
  have cleared : ∀ entry ∈ clearedAuth input auth,
      ∃ fields, entry.2 = .object fields := by
    unfold clearedAuth
    by_cases wanted : input.isDefault = true
    · rw [if_pos wanted]
      intro entry inside
      obtain ⟨former, present, rfl⟩ := List.mem_map.mp inside
      by_cases addressed : former.1 = input.authId
      · rw [if_pos addressed]
        exact objects former present
      · rw [if_neg addressed]
        exact ⟨_, rfl⟩
    · rw [if_neg wanted]
      exact objects
  refine ⟨_, authOf_nextConfig, ?_⟩
  generalize clearedAuth input auth = entries at cleared
  induction entries with
  | nil =>
      intro entry inside
      rw [setField, List.mem_singleton] at inside
      rw [inside]
      exact ⟨pair, rfl⟩
  | cons entry rest ih =>
      have later := ih fun other inside =>
        cleared other (List.mem_cons_of_mem entry inside)
      intro other inside
      rw [setField] at inside
      by_cases addressed : entry.1 = input.authId
      · rw [if_pos addressed] at inside
        rcases List.mem_cons.mp inside with rfl | present
        · exact ⟨pair, rfl⟩
        · exact cleared other (List.mem_cons_of_mem entry present)
      · rw [if_neg addressed] at inside
        rcases List.mem_cons.mp inside with rfl | present
        · exact cleared other List.mem_cons_self
        · exact later other present

theorem isDefault_nextConfig_self
    (flag : getField "isDefault" pair = some (.bool input.isDefault)) :
    IsDefault (nextConfig input pair auth config) input.authId ↔
      input.isDefault = true := by
  rw [IsDefault, provider_nextConfig_self, Option.bind_some, flag]
  simp

theorem isDefault_nextConfig_of_ne
    (different : id ≠ input.authId)
    (known : authOf config = some auth) :
    IsDefault (nextConfig input pair auth config) id ↔
      input.isDefault = false ∧ IsDefault config id := by
  rw [IsDefault, provider_nextConfig_of_ne different known]
  cases wanted : input.isDefault with
  | false => simp [IsDefault]
  | true =>
      rw [if_pos rfl]
      constructor
      · intro flagged
        cases found : getField id auth with
        | none =>
            rw [found] at flagged
            cases flagged
        | some value =>
            rw [found, Option.bind_some, clearDefault, fields?,
              Option.bind_some, getField_setField_self] at flagged
            cases flagged
      · intro impossible
        exact absurd impossible.1 (by decide)

/-- A call keeps one default exactly when it does not clear the flag of the
current one. -/
theorem oneDefault_nextConfig_iff
    (known : authOf config = some auth)
    (flag : getField "isDefault" pair = some (.bool input.isDefault))
    (one : OneDefault config) :
    OneDefault (nextConfig input pair auth config) ↔
      (input.isDefault = true ∨ ¬ IsDefault config input.authId) := by
  obtain ⟨current, isCurrent, unique⟩ := one
  cases wanted : input.isDefault with
  | true =>
      refine iff_of_true ⟨input.authId, ?_, ?_⟩ (Or.inl rfl)
      · exact (isDefault_nextConfig_self flag).mpr wanted
      · intro id flagged
        by_contra different
        have cleared := (isDefault_nextConfig_of_ne different known).mp flagged
        rw [wanted] at cleared
        exact absurd cleared.1 (by decide)
  | false =>
      have notAddressed : ¬ IsDefault (nextConfig input pair auth config)
          input.authId := by
        rw [isDefault_nextConfig_self flag, wanted]
        decide
      constructor
      · rintro ⟨id, flagged, _⟩
        have different : id ≠ input.authId := by
          rintro rfl
          exact notAddressed flagged
        have before := ((isDefault_nextConfig_of_ne different known).mp
          flagged).2
        refine Or.inr fun addressed => different ?_
        rw [unique id before, unique input.authId addressed]
      · rintro (impossible | kept)
        · exact absurd impossible (by decide)
        · have different : current ≠ input.authId := by
            rintro rfl
            exact kept isCurrent
          refine ⟨current, (isDefault_nextConfig_of_ne different known).mpr
            ⟨wanted, isCurrent⟩, ?_⟩
          intro id flagged
          have other : id ≠ input.authId := by
            rintro rfl
            exact notAddressed flagged
          exact unique id ((isDefault_nextConfig_of_ne other known).mp
            flagged).2

end Next

def SameButUrls (config next : JsonFields) : Prop :=
  authOf next = authOf config ∧
    withoutPublicUrls next = withoutPublicUrls config

theorem SameButUrls.provider
    {config next : JsonFields} (same : SameButUrls config next)
    (id : String) : provider next id = provider config id := by
  rw [Auth.provider, same.1, Auth.provider]

theorem SameButUrls.isDefault
    {config next : JsonFields} (same : SameButUrls config next)
    (id : String) : IsDefault next id ↔ IsDefault config id := by
  rw [IsDefault, same.provider, IsDefault]

theorem SameButUrls.oneDefault
    {config next : JsonFields} (same : SameButUrls config next) :
    OneDefault next ↔ OneDefault config :=
  existsUnique_congr same.isDefault

theorem SameButUrls.wellFormed
    {config next : JsonFields} (same : SameButUrls config next) :
    WellFormed next ↔ WellFormed config := by
  rw [WellFormed, same.1, WellFormed]

theorem sameButUrls_synchronize
    {config middle : JsonFields} (rewrite : UrlRewriter)
    (same : SameButUrls config middle) :
    SameButUrls config (synchronizePublicUrls rewrite middle) := by
  refine ⟨?_, (synchronize_withoutPublicUrls rewrite middle).trans same.2⟩
  have kept : authOf (synchronizePublicUrls rewrite middle) =
      authOf middle := by
    rw [authOf, authOf]
    congr 1
    exact getField_mapPublicUrls (by decide) (by decide) _ middle
  exact kept.trans same.1

theorem restartLaunchServer_keeps
    (config : JsonFields) (lifecycle : Option Lifecycle) :
    Keeps (fun state => SameButUrls config state.config)
      (restartLaunchServer lifecycle) := by
  cases lifecycle with
  | none => exact keeps_pure _
  | some lifecycle =>
      refine Keeps.lift_bind fun _ => Keeps.bind ?_ fun _ => keeps_lift _
      exact keeps_update fun state same =>
        sameButUrls_synchronize lifecycle.rewrite same

theorem applyDiscordModuleConfig_keeps
    (config : JsonFields) (host : AuthHost)
    (requested : Option AuthDiscordCoreInput) :
    Keeps (fun state => SameButUrls config state.config)
      (applyDiscordModuleConfig host requested) := by
  cases requested with
  | none => exact keeps_throw _
  | some requested =>
      refine keeps_get.bind fun state => ?_
      refine Keeps.lift_bind fun secret => Keeps.lift_bind fun _ => ?_
      exact keeps_update fun _ same => same

theorem ensureDiscordModule_keeps (config : JsonFields) (host : AuthHost) :
    Keeps (fun state => SameButUrls config state.config)
      (ensureDiscordModule host) := by
  refine Keeps.lift_bind fun current => ?_
  cases current with
  | true => exact keeps_pure _
  | false =>
      exact Keeps.lift_bind fun _ => restartLaunchServer_keeps config _

theorem prepareModules_keeps
    (config : JsonFields) (host : AuthHost) (input : AuthProviderApplyInput) :
    Keeps (fun state => SameButUrls config state.config)
      (prepareModules host input) := by
  unfold prepareModules
  cases input.recipeId with
  | mojang => exact keeps_lift _
  | microsoft => exact keeps_lift _
  | sql =>
      by_cases phpass : usesPhpass input = true
      · dsimp only
        rw [if_pos phpass]
        exact keeps_lift _
      · dsimp only
        rw [if_neg phpass]
        exact keeps_pure _
  | discord =>
      refine (ensureDiscordModule_keeps config host).bind fun _ => ?_
      refine (applyDiscordModuleConfig_keeps config host _).bind fun _ => ?_
      exact keeps_lift _
  | memory => exact keeps_pure _
  | http => exact keeps_pure _
  | merge => exact keeps_pure _
  | file => exact keeps_pure _

section Call

variable {host : AuthHost} {input : AuthProviderApplyInput}
variable {state reached : AuthState}

theorem readAuth_ok {auth : JsonFields}
    (run : readAuth state = (.ok auth, reached)) :
    authOf state.config = some auth ∧ reached = state := by
  unfold readAuth at run
  rw [get_bind] at run
  cases known : authOf state.config with
  | none =>
      rw [known] at run
      cases run
  | some found =>
      rw [known] at run
      cases run
      exact ⟨rfl, rfl⟩

theorem writeProvider_ok {value : PUnit}
    (run : writeProvider host input state = (.ok value, reached)) :
    ∃ auth pair, authOf state.config = some auth ∧
      buildProviderPair host.environment input
        (existingPair input.authId auth) = .ok pair ∧
      SameButUrls (nextConfig input pair auth state.config)
        reached.config := by
  obtain ⟨auth, same, read, rest⟩ := bind_eq_ok.mp run
  obtain ⟨known, unchanged⟩ := readAuth_ok read
  rw [unchanged] at rest
  obtain ⟨_, _, rest⟩ := lift_bind_eq_ok.mp rest
  obtain ⟨_, _, rest⟩ := lift_bind_eq_ok.mp rest
  obtain ⟨pair, built, rest⟩ := lift_bind_eq_ok.mp rest
  obtain ⟨_, _, rest⟩ := lift_bind_eq_ok.mp rest
  obtain ⟨_, written, changed, restarted⟩ := bind_eq_ok.mp rest
  cases changed
  refine ⟨auth, pair, known, built, ?_⟩
  have begun : SameButUrls (nextConfig input pair auth state.config)
      (setConfig (nextConfig input pair auth state.config) state).config :=
    ⟨rfl, rfl⟩
  have kept := (restartLaunchServer_keeps _ host.lifecycle).reached begun
  rw [restarted] at kept
  exact kept

theorem verifyProvider_ok {value : PUnit}
    (run : verifyProvider input state = (.ok value, reached)) :
    reached = state := by
  obtain ⟨auth, _, read, rest⟩ := bind_eq_ok.mp run
  obtain ⟨_, rfl⟩ := readAuth_ok read
  obtain ⟨-, rfl⟩ := Prod.mk.inj rest
  rfl

theorem applyProvider_ok {result : AuthProviderApplyResult}
    (written : input.recipeId ≠ .file)
    (run : applyProvider host input state = (.ok result, reached)) :
    ∃ prepared auth pair, SameButUrls state.config prepared ∧
      authOf prepared = some auth ∧
      buildProviderPair host.environment input
        (existingPair input.authId auth) = .ok pair ∧
      SameButUrls (nextConfig input pair auth prepared) reached.config := by
  obtain ⟨_, _, rest⟩ := lift_bind_eq_ok.mp run
  rw [if_neg written] at rest
  obtain ⟨_, prepared, modules, rest⟩ := bind_eq_ok.mp rest
  obtain ⟨_, wrote, write, rest⟩ := bind_eq_ok.mp rest
  obtain ⟨_, verified, verify, last⟩ := bind_eq_ok.mp rest
  cases last
  have begun : SameButUrls state.config state.config := ⟨rfl, rfl⟩
  have same := (prepareModules_keeps state.config host input).reached begun
  rw [modules] at same
  obtain ⟨auth, pair, known, built, kept⟩ := writeProvider_ok write
  rw [verifyProvider_ok verify]
  exact ⟨prepared.config, auth, pair, same, known, built, kept⟩

theorem coreBefore_eq {config auth : JsonFields} {id : String}
    (known : authOf config = some auth) :
    coreBefore config id =
      (member "core" (existingPair id auth)).getD .null := by
  rw [coreBefore, provider, known, Option.bind_some, existingPair]
  cases found : getField id auth with
  | none => rfl
  | some value => cases value <;> rfl

theorem applied_of_run {result : AuthProviderApplyResult}
    (formed : WellFormed state.config) (written : input.recipeId ≠ .file)
    (run : applyProvider host input state = (.ok result, reached)) :
    WellFormed reached.config ∧
      Applied host.environment input state.config reached.config ∧
        (OneDefault state.config →
          (OneDefault reached.config ↔
            (input.isDefault = true ∨
              ¬ IsDefault state.config input.authId))) := by
  obtain ⟨prepared, auth, pair, before, known, built, after⟩ :=
    applyProvider_ok written run
  have ready := before.wellFormed.mpr formed
  have flag := buildProviderPair_isDefault built
  refine ⟨after.wellFormed.mpr (wellFormed_nextConfig ready known), ?_, ?_⟩
  · constructor
    · refine ⟨pair, (after.provider _).trans provider_nextConfig_self, ?_⟩
      have same : coreBefore state.config input.authId =
          coreBefore prepared input.authId := by
        rw [coreBefore, coreBefore, before.provider]
      rw [same, coreBefore_eq known]
      exact buildProviderPair_settings built
    · intro id different
      rw [after.provider, ← before.provider]
      exact others_nextConfig ready known different
    · intro key different
      rw [after.2, ← before.2]
      apply getField_withoutPublicUrls
      exact getField_setField_of_ne different _ prepared
  · intro one
    rw [after.oneDefault, oneDefault_nextConfig_iff known flag
      (before.oneDefault.mpr one), before.isDefault]

end Call

structure ProviderCall where
  host : AuthHost
  input : AuthProviderApplyInput
  written : input.recipeId ≠ .file

/-- A call that succeeds. -/
def providerStep (state : AuthState) (call : ProviderCall) :
    Option (AuthState × List AuthProviderApplyResult) :=
  match applyProvider call.host call.input state with
  | (.ok result, next) => some (next, [result])
  | (.error _, _) => none

/-- The call does not clear the flag of the default provider. -/
def KeepsDefault (state : AuthState) (call : ProviderCall) : Prop :=
  call.input.isDefault = true ∨ ¬ IsDefault state.config call.input.authId

variable {results : List AuthProviderApplyResult}

theorem providerStep_ok
    {state next : AuthState} {call : ProviderCall}
    (step : providerStep state call = some (next, results)) :
    ∃ result, applyProvider call.host call.input state =
      (.ok result, next) := by
  unfold providerStep at step
  rcases run : applyProvider call.host call.input state with
    ⟨outcome, reached⟩
  rw [run] at step
  cases outcome with
  | error problem => cases step
  | ok result =>
      cases step
      exact ⟨result, rfl⟩

theorem applied_of_step
    {state next : AuthState} {call : ProviderCall}
    (formed : WellFormed state.config)
    (step : providerStep state call = some (next, results)) :
    WellFormed next.config ∧
      Applied call.host.environment call.input state.config next.config ∧
        (OneDefault state.config →
          (OneDefault next.config ↔ KeepsDefault state call)) := by
  obtain ⟨result, done⟩ := providerStep_ok step
  exact applied_of_run formed call.written done

theorem wellFormed_of_run
    {start final : AuthState} {calls : List ProviderCall}
    (formed : WellFormed start.config)
    (run : execute providerStep start calls = some (final, results)) :
    WellFormed final.config := by
  have advance : ∀ state (_ : List AuthProviderApplyResult) call next
      (now : List AuthProviderApplyResult), WellFormed state.config →
      providerStep state call = some (next, now) →
        WellFormed next.config :=
    fun state _ call next now holds step => (applied_of_step holds step).1
  exact execute_induction advance formed run

/-- In a run, every state has one default exactly when no call clears the flag
of the default provider. -/
theorem oneDefault_iff_keepsDefault
    {start final : AuthState} {calls : List ProviderCall}
    (formed : WellFormed start.config) (one : OneDefault start.config)
    (run : execute providerStep start calls = some (final, results)) :
    (∀ passed rest reached made, calls = passed ++ rest →
        execute providerStep start passed = some (reached, made) →
          OneDefault reached.config) ↔
      Meets providerStep KeepsDefault start calls := by
  have property : ∀ state : AuthState,
      WellFormed state.config ∧ OneDefault state.config →
        OneDefault state.config := fun state holds => holds.2
  refine passes_iff_meets property ?_ ?_ ⟨formed, one⟩ run
  · intro state call next now holds step kept
    obtain ⟨nextFormed, _, default⟩ := applied_of_step holds.1 step
    exact ⟨nextFormed, (default holds.2).mpr kept⟩
  · intro state call next now holds step nextOne
    exact ((applied_of_step holds.1 step).2.2 holds.2).mp nextOne

/-- After each call of a run, the addressed provider has the settings of the
request, and the rest is as before; as long as no call clears the flag of the
default provider, one provider is the default. -/
theorem providers_applied
    {start middle next : AuthState} {earlier : List ProviderCall}
    {call : ProviderCall} {past now : List AuthProviderApplyResult}
    (formed : WellFormed start.config) (one : OneDefault start.config)
    (run : execute providerStep start earlier = some (middle, past))
    (last : providerStep middle call = some (next, now)) :
    Applied call.host.environment call.input middle.config next.config ∧
      (Meets providerStep KeepsDefault start (earlier ++ [call]) →
        OneDefault next.config) := by
  have middleFormed := wellFormed_of_run formed run
  obtain ⟨_, applied, default⟩ := applied_of_step middleFormed last
  refine ⟨applied, fun meets => ?_⟩
  obtain ⟨before, final⟩ := meets.append run
  have middleOne : OneDefault middle.config :=
    (oneDefault_iff_keepsDefault formed one run).mpr before earlier [] middle
      past (List.append_nil earlier).symm run
  exact (default middleOne).mpr final.1

def localUrls (url : String) : JsonFields :=
  [("address", .string url)]

/-- The provider `std` with this core, and the address of the socket. -/
def stdConfig (coreType : String) : JsonFields :=
  [("auth", .object [("std", .object
      [("isDefault", .bool true), ("displayName", .string "Default"),
        ("visible", .bool true),
        ("core", .object [("type", .string coreType)])])]),
    ("netty", .object (localUrls "ws://localhost:9274/api"))]

def stdState (coreType : String) : AuthState := ⟨stdConfig coreType, none⟩

def publicLifecycle : Lifecycle where
  prepare := .ok ⟨⟩
  rewrite _ scheme _ url :=
    if scheme = .websocket then "wss://play.example.org/api" else url
  restart := .ok ⟨⟩

def stdHost : AuthHost where
  environment := ⟨"https://play.example.org", none, none⟩
  install _ := .ok ⟨⟩
  discordArtifact := .ok true
  buildDiscord := .ok ⟨⟩
  writeModuleConfig := .ok ⟨⟩
  backup := .ok ⟨⟩
  write := .ok ⟨⟩
  fileAuthCommand _ config := .ok config
  lifecycle := some publicLifecycle

def stdInput
    (recipeId : AuthCoreRecipeId) (authId : String) (isDefault : Bool) :
    AuthProviderApplyInput where
  authId := authId
  recipeId := recipeId
  displayName := "Players"
  isDefault := isDefault
  visible := true
  textureProvider := none
  sql := none
  http := none
  discord := none
  merge := none

theorem stdConfig_wellFormed (coreType : String) :
    WellFormed (stdConfig coreType) := by
  refine ⟨_, rfl, ?_⟩
  intro entry inside
  rw [List.mem_singleton.mp inside]
  exact ⟨_, rfl⟩

theorem stdConfig_oneDefault (coreType : String) :
    OneDefault (stdConfig coreType) := by
  refine ⟨"std", rfl, ?_⟩
  intro id flagged
  by_contra other
  have missing : provider (stdConfig coreType) id = none := by
    have absent : getField id [("std", Json.object
        [("isDefault", .bool true), ("displayName", .string "Default"),
          ("visible", .bool true),
          ("core", .object [("type", .string coreType)])])] = none := by
      rw [getField, if_neg (Ne.symm other)]
      rfl
    show (getField id _).bind fields? = none
    rw [absent]
    rfl
  rw [IsDefault, missing] at flagged
  cases flagged

def playersCall : ProviderCall :=
  ⟨stdHost, stdInput .memory "players" true, by decide⟩

/-- A new default is applied, and it is the only one. -/
theorem players_applied :
    ∃ next, OneDefault next ∧
      Applied stdHost.environment (stdInput .memory "players" true)
        (stdConfig "reject") next := by
  have applied := @providers_applied (stdState "reject") _ _ [] playersCall
    _ _ (stdConfig_wellFormed "reject") (stdConfig_oneDefault "reject") rfl
    rfl
  exact ⟨_, applied.2 ⟨Or.inl rfl, fun _ _ _ => trivial⟩, applied.1⟩

/-- FileAuthSystem's own command ignores the settings, a restart sets the
public URLs, and clearing the flag of the default leaves none. -/
theorem settings_urls_default_differ :
    (∀ coreType, WellFormed (stdConfig coreType) ∧
      OneDefault (stdConfig coreType)) ∧
    (∃ result next, applyProvider stdHost (stdInput .file "std" true)
        (stdState "fileauthsystem") = (.ok result, next) ∧
      ¬ ∃ pair, provider next.config "std" = some pair ∧
        HasSettings pair (requestedSettings stdHost.environment
          (stdInput .file "std" true)
          (coreBefore (stdConfig "fileauthsystem") "std"))) ∧
    (∃ result next, applyProvider stdHost (stdInput .memory "std" true)
        (stdState "reject") = (.ok result, next) ∧
      getField "netty" next.config ≠
        getField "netty" (stdConfig "reject")) ∧
    ∃ result next, applyProvider stdHost (stdInput .memory "std" false)
        (stdState "reject") = (.ok result, next) ∧
      ¬ OneDefault next.config := by
  refine ⟨fun coreType => ⟨stdConfig_wellFormed coreType,
    stdConfig_oneDefault coreType⟩, ⟨_, _, rfl, ?_⟩, ⟨_, _, rfl, ?_⟩,
    ⟨_, _, rfl, ?_⟩⟩
  · rintro ⟨pair, found, settings⟩
    cases found
    have shown := settings (["displayName"], .string "Players")
      (List.mem_append_left _ (List.mem_append_left _
        (List.mem_cons_of_mem _ List.mem_cons_self)))
    have name : valueAt ["displayName"] (.object
        [("isDefault", .bool true), ("displayName", .string "Default"),
          ("visible", .bool true),
          ("core", .object [("type", .string "fileauthsystem")])]) =
        some (.string "Default") := rfl
    exact absurd (Json.string.inj (Option.some.inj (name.symm.trans shown)))
      (by decide)
  · intro same
    have addresses := congrArg (fun value =>
      (value.bind (stringMember "address"))) same
    exact absurd addresses (by decide +kernel)
  · intro one
    have writes : (stdInput .memory "std" false).recipeId ≠ .file := by
      decide
    have done : applyProvider stdHost (stdInput .memory "std" false)
        (stdState "reject") = (.ok _, _) := rfl
    have kept := ((applied_of_run (stdConfig_wellFormed "reject") writes
      done).2.2 (stdConfig_oneDefault "reject")).mp one
    rcases kept with wanted | cleared
    · cases wanted
    · exact cleared rfl

end GravitPanel.Auth
