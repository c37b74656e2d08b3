import GravitPanel.Auth.DetailRequests

/-!
# Details that are submitted unchanged

A detail that is submitted through `applyProvider` leaves the provider and the
configuration of the Discord module as they were, apart from the texture
provider.
-/

namespace GravitPanel.Auth

open Program Json LauncherDockered

def Restarts (lifecycle : Option Lifecycle) : Prop :=
  ∀ used, lifecycle = some used →
    (∃ value, used.prepare = .ok value) ∧ ∃ value, used.restart = .ok value

/-- The Discord module is published, or it can be. -/
def Publishes (host : AuthHost) : Prop :=
  ∃ current, host.discordArtifact = .ok current ∧
    (current = false →
      (∃ value, host.buildDiscord = .ok value) ∧ Restarts host.lifecycle)

section Ends

variable {host : AuthHost} {input : AuthProviderApplyInput}
variable {state : AuthState}

theorem ends_restartLaunchServer {lifecycle : Option Lifecycle} :
    Ends (restartLaunchServer lifecycle) state ↔ Restarts lifecycle := by
  cases lifecycle with
  | none =>
      refine iff_of_true (ends_pure _) ?_
      intro used impossible
      cases impossible
  | some lifecycle =>
      rw [restartLaunchServer, ends_lift_bind]
      constructor
      · rintro ⟨value, prepared, rest⟩ used same
        cases same
        exact ⟨⟨value, prepared⟩, ends_lift.mp (ends_update_bind.mp rest)⟩
      · intro restarts
        obtain ⟨⟨value, prepared⟩, restarted⟩ := restarts lifecycle rfl
        exact ⟨value, prepared, ends_update_bind.mpr (ends_lift.mpr restarted)⟩

theorem ends_readAuth_bind {Value : Type}
    {next : JsonFields → Program AuthState String Value} :
    Ends (readAuth >>= next) state ↔
      ∃ auth, authOf state.config = some auth ∧ Ends (next auth) state := by
  rw [ends_bind]
  constructor
  · rintro ⟨auth, reached, read, rest⟩
    obtain ⟨known, rfl⟩ := readAuth_ok read
    exact ⟨auth, known, rest⟩
  · rintro ⟨auth, known, rest⟩
    refine ⟨auth, state, ?_, rest⟩
    rw [readAuth, get_bind, known]
    rfl

theorem ends_ensureDiscordModule :
    Ends (ensureDiscordModule host) state ↔ Publishes host := by
  rw [ensureDiscordModule, ends_lift_bind, Publishes]
  refine exists_congr fun current => and_congr_right fun _ => ?_
  cases current with
  | true =>
      refine iff_of_true (ends_pure _) ?_
      intro impossible
      cases impossible
  | false =>
      rw [if_neg Bool.false_ne_true, ends_lift_bind]
      constructor
      · rintro ⟨value, built, rest⟩ _
        exact ⟨⟨value, built⟩, ends_restartLaunchServer.mp rest⟩
      · intro publishes
        obtain ⟨⟨value, built⟩, restarts⟩ := publishes rfl
        exact ⟨value, built, ends_restartLaunchServer.mpr restarts⟩

theorem ends_writeDiscordModuleConfig {config : AuthDiscordCoreInput} :
    Ends (writeDiscordModuleConfig host config) state ↔
      (∃ secret, discordSecret config state.discordConfig = .ok secret) ∧
        ∃ value, host.writeModuleConfig = .ok value := by
  rw [writeDiscordModuleConfig, ends_get_bind, ends_lift_bind]
  constructor
  · rintro ⟨secret, found, rest⟩
    obtain ⟨value, written, _⟩ := ends_lift_bind.mp rest
    exact ⟨⟨secret, found⟩, value, written⟩
  · rintro ⟨⟨secret, found⟩, value, written⟩
    exact ⟨secret, found,
      ends_lift_bind.mpr ⟨value, written, ends_update _⟩⟩

theorem ends_writeProvider :
    Ends (writeProvider host input) state ↔
      ∃ auth, authOf state.config = some auth ∧
        (∃ value : Unit, checkMerge input auth = .ok value) ∧
        (∃ value, host.backup = .ok value) ∧
        (∃ pair, buildProviderPair host.environment input
          (existingPair input.authId auth) = .ok pair) ∧
        (∃ value, host.write = .ok value) ∧ Restarts host.lifecycle := by
  rw [writeProvider, ends_readAuth_bind]
  refine exists_congr fun auth => and_congr_right fun _ => ?_
  rw [ends_lift_bind]
  constructor
  · rintro ⟨merged, checked, rest⟩
    obtain ⟨copied, backup, rest⟩ := ends_lift_bind.mp rest
    obtain ⟨pair, built, rest⟩ := ends_lift_bind.mp rest
    obtain ⟨stored, write, rest⟩ := ends_lift_bind.mp rest
    exact ⟨⟨merged, checked⟩, ⟨copied, backup⟩, ⟨pair, built⟩,
      ⟨stored, write⟩, ends_restartLaunchServer.mp (ends_update_bind.mp rest)⟩
  · rintro ⟨⟨merged, checked⟩, ⟨copied, backup⟩, ⟨pair, built⟩,
      ⟨stored, write⟩, restarts⟩
    exact ⟨merged, checked, ends_lift_bind.mpr ⟨copied, backup,
      ends_lift_bind.mpr ⟨pair, built, ends_lift_bind.mpr ⟨stored, write,
        ends_update_bind.mpr (ends_restartLaunchServer.mpr restarts)⟩⟩⟩⟩

/-- What the modules of a recipe need, given the stored configuration of the
Discord module. -/
structure Prepares
    (host : AuthHost) (input : AuthProviderApplyInput)
    (stored : Option Json) : Prop where
  mojang :
    input.recipeId = .mojang ∨ input.recipeId = .microsoft →
      ∃ value : Unit, host.install "MojangSupport_module" = .ok value
  phpass :
    input.recipeId = .sql → usesPhpass input = true →
      ∃ value : Unit, host.install "AdditionalHash_module" = .ok value
  publishes : input.recipeId = .discord → Publishes host
  secret :
    input.recipeId = .discord →
      ∃ config secret, input.discord = some config ∧
        discordSecret config stored = .ok secret
  writes :
    input.recipeId = .discord →
      ∃ value : Unit, host.writeModuleConfig = .ok value
  installs :
    input.recipeId = .discord →
      ∃ value : Unit, host.install "DiscordAuthSystem_module" = .ok value

/-- What a call does to the configuration of the Discord module. -/
structure ModuleWritten
    (environment : AuthEnvironment) (input : AuthProviderApplyInput)
    (before after : Option Json) : Prop where
  discord :
    input.recipeId = .discord →
      ∃ config secret, input.discord = some config ∧
        discordSecret config before = .ok secret ∧
          after = some (.object
            (discordModuleConfig environment config secret))
  others : input.recipeId ≠ .discord → after = before

theorem readAuth_keeps (invariant : AuthState → Prop) :
    Keeps invariant readAuth := by
  refine keeps_get.bind fun state => ?_
  cases authOf state.config with
  | none => exact keeps_throw _
  | some auth => exact keeps_pure _

section Module

variable (config : Option Json)

theorem restartLaunchServer_keepsModule (lifecycle : Option Lifecycle) :
    Keeps (fun state => state.discordConfig = config)
      (restartLaunchServer lifecycle) := by
  cases lifecycle with
  | none => exact keeps_pure _
  | some lifecycle =>
      refine Keeps.lift_bind fun _ => Keeps.bind ?_ fun _ => keeps_lift _
      exact keeps_update fun _ same => same

theorem ensureDiscordModule_keepsModule (host : AuthHost) :
    Keeps (fun state => state.discordConfig = config)
      (ensureDiscordModule host) := by
  refine Keeps.lift_bind fun current => ?_
  cases current with
  | true => exact keeps_pure _
  | false =>
      exact Keeps.lift_bind fun _ => restartLaunchServer_keepsModule config _

theorem writeProvider_keepsModule
    (host : AuthHost) (input : AuthProviderApplyInput) :
    Keeps (fun state => state.discordConfig = config)
      (writeProvider host input) := by
  refine (readAuth_keeps _).bind fun auth => Keeps.lift_bind fun _ => ?_
  refine Keeps.lift_bind fun _ => Keeps.lift_bind fun pair => ?_
  refine Keeps.lift_bind fun _ => Keeps.bind ?_ fun _ =>
    restartLaunchServer_keepsModule config _
  exact keeps_update fun _ same => same

end Module

theorem prepareModules_discord (recipe : input.recipeId = .discord) :
    prepareModules host input =
      ensureDiscordModule host >>= fun _ =>
        applyDiscordModuleConfig host input.discord >>= fun _ =>
          lift (host.install "DiscordAuthSystem_module") := by
  rw [prepareModules, recipe]

theorem ends_applyDiscordModuleConfig
    {requested : Option AuthDiscordCoreInput} :
    Ends (applyDiscordModuleConfig host requested) state ↔
      (∃ config secret, requested = some config ∧
        discordSecret config state.discordConfig = .ok secret) ∧
        ∃ value : Unit, host.writeModuleConfig = .ok value := by
  cases requested with
  | none =>
      refine iff_of_false (not_ends_throw _) ?_
      rintro ⟨⟨config, secret, impossible, _⟩, _⟩
      cases impossible
  | some requested =>
      rw [applyDiscordModuleConfig, ends_writeDiscordModuleConfig]
      refine and_congr_left fun _ => ?_
      constructor
      · rintro ⟨secret, found⟩
        exact ⟨requested, secret, rfl, found⟩
      · rintro ⟨config, secret, same, found⟩
        cases same
        exact ⟨secret, found⟩

theorem ends_prepareModules :
    Ends (prepareModules host input) state ↔
      Prepares host input state.discordConfig := by
  cases recipe : input.recipeId with
  | memory =>
      rw [prepareModules, recipe]
      exact iff_of_true (ends_pure _) (by constructor <;> simp [recipe])
  | http =>
      rw [prepareModules, recipe]
      exact iff_of_true (ends_pure _) (by constructor <;> simp [recipe])
  | merge =>
      rw [prepareModules, recipe]
      exact iff_of_true (ends_pure _) (by constructor <;> simp [recipe])
  | file =>
      rw [prepareModules, recipe]
      exact iff_of_true (ends_pure _) (by constructor <;> simp [recipe])
  | mojang =>
      rw [prepareModules, recipe]
      refine ends_lift.trans ⟨fun installs => ?_, fun prepares =>
        prepares.mojang (Or.inl recipe)⟩
      constructor <;> simp [recipe, installs]
  | microsoft =>
      rw [prepareModules, recipe]
      refine ends_lift.trans ⟨fun installs => ?_, fun prepares =>
        prepares.mojang (Or.inr recipe)⟩
      constructor <;> simp [recipe, installs]
  | sql =>
      rw [prepareModules, recipe]
      dsimp only
      by_cases phpass : usesPhpass input = true
      · rw [if_pos phpass]
        refine ends_lift.trans ⟨fun installs => ?_, fun prepares =>
          prepares.phpass recipe phpass⟩
        constructor <;> simp [recipe, installs]
      · rw [if_neg phpass]
        refine iff_of_true (ends_pure _) ?_
        constructor <;> simp [recipe, phpass]
  | discord =>
      rw [prepareModules_discord recipe, ends_bind]
      constructor
      · rintro ⟨_, published, ensured, rest⟩
        have same : (ensureDiscordModule host state).2.discordConfig =
            state.discordConfig :=
          (ensureDiscordModule_keepsModule _ host).reached rfl
        rw [ensured] at same
        obtain ⟨_, written, applied, installed⟩ := ends_bind.mp rest
        have ended := ends_applyDiscordModuleConfig.mp ⟨_, _, applied⟩
        rw [same] at ended
        constructor
        · simp [recipe]
        · simp [recipe]
        · exact fun _ => ends_ensureDiscordModule.mp ⟨_, _, ensured⟩
        · exact fun _ => ended.1
        · exact fun _ => ended.2
        · exact fun _ => ends_lift.mp installed
      · intro prepares
        obtain ⟨value, published, ensured⟩ :=
          ends_ensureDiscordModule.mpr (prepares.publishes recipe)
        have same : (ensureDiscordModule host state).2.discordConfig =
            state.discordConfig :=
          (ensureDiscordModule_keepsModule _ host).reached rfl
        rw [ensured] at same
        refine ⟨value, published, ensured, ends_bind.mpr ?_⟩
        obtain ⟨other, written, applied⟩ :=
          ends_applyDiscordModuleConfig.mpr
            ⟨same.symm ▸ prepares.secret recipe, prepares.writes recipe⟩
        exact ⟨other, written, applied,
          ends_lift.mpr (prepares.installs recipe)⟩

theorem moduleWritten_of_prepare {value : PUnit} {reached : AuthState}
    (run : prepareModules host input state = (.ok value, reached)) :
    ModuleWritten host.environment input state.discordConfig
      reached.discordConfig := by
  constructor
  · intro recipe
    rw [prepareModules_discord recipe] at run
    obtain ⟨_, published, ensured, rest⟩ := bind_eq_ok.mp run
    obtain ⟨_, written, applied, installed⟩ := bind_eq_ok.mp rest
    have same : (ensureDiscordModule host state).2.discordConfig =
        state.discordConfig :=
      (ensureDiscordModule_keepsModule _ host).reached rfl
    rw [ensured] at same
    cases requested : input.discord with
    | none =>
        rw [requested] at applied
        cases applied
    | some config =>
        rw [requested, applyDiscordModuleConfig, writeDiscordModuleConfig,
          get_bind] at applied
        obtain ⟨secret, found, stored⟩ := lift_bind_eq_ok.mp applied
        obtain ⟨_, _, changed⟩ := lift_bind_eq_ok.mp stored
        cases changed
        obtain ⟨_, rfl⟩ := Prod.mk.inj installed
        refine ⟨config, secret, rfl, ?_, rfl⟩
        rw [← same]
        exact found
  · intro other
    have unchanged : (prepareModules host input state).2 = state := by
      cases recipe : input.recipeId with
      | memory => rw [prepareModules, recipe]; rfl
      | http => rw [prepareModules, recipe]; rfl
      | merge => rw [prepareModules, recipe]; rfl
      | file => rw [prepareModules, recipe]; rfl
      | mojang => rw [prepareModules, recipe]; rfl
      | microsoft => rw [prepareModules, recipe]; rfl
      | sql =>
          rw [prepareModules, recipe]
          dsimp only
          by_cases phpass : usesPhpass input = true
          · rw [if_pos phpass]
            rfl
          · rw [if_neg phpass]
            rfl
      | discord => exact absurd recipe other
    rw [run] at unchanged
    exact congrArg AuthState.discordConfig unchanged

/-- A call that writes the provider, and what it leaves of the configuration of
the module. -/
theorem moduleWritten_of_run {result : AuthProviderApplyResult}
    {reached : AuthState} (written : input.recipeId ≠ .file)
    (run : applyProvider host input state = (.ok result, reached)) :
    ModuleWritten host.environment input state.discordConfig
      reached.discordConfig := by
  obtain ⟨_, _, rest⟩ := lift_bind_eq_ok.mp run
  rw [if_neg written] at rest
  obtain ⟨_, prepared, modules, rest⟩ := bind_eq_ok.mp rest
  obtain ⟨_, wrote, write, rest⟩ := bind_eq_ok.mp rest
  obtain ⟨_, verified, verify, last⟩ := bind_eq_ok.mp rest
  cases last
  have same : (writeProvider host input prepared).2.discordConfig =
      prepared.discordConfig :=
    (writeProvider_keepsModule _ host input).reached rfl
  rw [write] at same
  rw [verifyProvider_ok verify, same]
  exact moduleWritten_of_prepare modules

theorem ends_verifyProvider {auth pair config : JsonFields} {existing : Json}
    (built : buildProviderPair host.environment input existing = .ok pair)
    (after : SameButUrls (nextConfig input pair auth config) state.config) :
    Ends (verifyProvider input) state := by
  rw [verifyProvider, ends_readAuth_bind]
  refine ⟨_, after.1.trans authOf_nextConfig, ends_lift.mpr ⟨⟨⟩, ?_⟩⟩
  obtain ⟨core, made, rfl⟩ := buildProviderPair_ok built
  have type := (@buildCore_ok input _ (buildTextureProvider
    (chosenTexture host.environment input existing)) core made).1
  have found : configuredAs input.recipeId.coreType input.authId
      (setField input.authId (.object (pairOf input (buildTextureProvider
        (chosenTexture host.environment input existing)) core))
          (clearedAuth input auth)) = true := by
    rw [configuredAs, getField_setField_self, Option.map_some,
      Option.getD_some, hasCoreType]
    refine decide_eq_true ?_
    show (getField "type" core).bind string? = _
    rw [type]
    rfl
  rw [found]
  rfl

theorem ends_applyProvider (written : input.recipeId ≠ .file) :
    Ends (applyProvider host input) state ↔
      authIdPattern input.authId = true ∧
        Prepares host input state.discordConfig ∧
          ∃ auth, authOf state.config = some auth ∧
            (∃ value : Unit, checkMerge input auth = .ok value) ∧
            (∃ value, host.backup = .ok value) ∧
            (∃ pair, buildProviderPair host.environment input
              (existingPair input.authId auth) = .ok pair) ∧
            (∃ value, host.write = .ok value) ∧
            Restarts host.lifecycle := by
  have pattern : (∃ value : Unit,
      reject (!authIdPattern input.authId) invalidAuthId = .ok value) ↔
        authIdPattern input.authId = true := by
    rw [reject]
    cases authIdPattern input.authId with
    | true => exact iff_of_true ⟨⟨⟩, rfl⟩ rfl
    | false =>
        refine iff_of_false ?_ Bool.false_ne_true
        rintro ⟨value, impossible⟩
        cases impossible
  rw [applyProvider, ends_lift_bind]
  constructor
  · rintro ⟨value, matched, rest⟩
    rw [if_neg written] at rest
    obtain ⟨_, prepared, modules, rest⟩ := ends_bind.mp rest
    obtain ⟨_, wrote, write, _⟩ := ends_bind.mp rest
    have same : SameButUrls state.config
        (prepareModules host input state).2.config :=
      (prepareModules_keeps state.config host input).reached ⟨rfl, rfl⟩
    rw [modules] at same
    obtain ⟨auth, known, others⟩ := ends_writeProvider.mp ⟨_, _, write⟩
    exact ⟨pattern.mp ⟨value, matched⟩, ends_prepareModules.mp ⟨_, _, modules⟩,
      auth, same.1.symm.trans known, others⟩
  · rintro ⟨matched, prepares, auth, known, checked, backup, ⟨pair, built⟩,
      others⟩
    obtain ⟨value, accepted⟩ := pattern.mpr matched
    obtain ⟨_, prepared, modules⟩ := ends_prepareModules.mpr prepares
    have same : SameButUrls state.config
        (prepareModules host input state).2.config :=
      (prepareModules_keeps state.config host input).reached ⟨rfl, rfl⟩
    rw [modules] at same
    have still : authOf prepared.config = some auth := same.1.trans known
    obtain ⟨_, wrote, write⟩ := ends_writeProvider.mpr
      ⟨auth, still, checked, backup, ⟨pair, built⟩, others⟩
    obtain ⟨found, stored, there, made, after⟩ := writeProvider_ok write
    obtain ⟨_, verified, verify⟩ := ends_verifyProvider made after
    refine ⟨value, accepted, ?_⟩
    rw [if_neg written]
    exact ends_bind.mpr ⟨_, prepared, modules, ends_bind.mpr ⟨_, wrote, write,
      ends_bind.mpr ⟨_, verified, verify, ends_pure _⟩⟩⟩

end Ends

/-! ## Submitting a detail -/

/-- What a call with the detail's request leaves of the provider. -/
structure Reapplied
    (environment : AuthEnvironment) (recipeId : AuthCoreRecipeId)
    (id : String) (before after : AuthState) : Prop where
  provider :
    ∃ former latter,
      provider before.config id = some former ∧
        provider after.config id = some latter ∧
          (∀ key, key ≠ "textureProvider" →
            getField key latter = getField key former) ∧
            getField "textureProvider" latter =
              (getField "textureProvider" former).map
                (reappliedTexture environment recipeId)
  discordConfig : after.discordConfig = before.discordConfig

/-- The detail of a provider can be read, its request succeeds under what the
call met, and a call with this request under the same environment leaves the
provider and the configuration of the module as they are, apart from the
texture provider. -/
def DetailReapplies
    (host : AuthHost) (recipeId : AuthCoreRecipeId) (id : String)
    (state : AuthState) : Prop :=
  ∃ detail, providerDetail id state = (.ok detail, state) ∧
    recipeOf detail.coreType = some recipeId ∧
      Ends (applyProvider host (detail.toInput recipeId)) state ∧
        ∀ other result after, other.environment = host.environment →
          applyProvider other (detail.toInput recipeId) state =
              (.ok result, after) →
            Reapplied host.environment recipeId id state after

theorem recipeOf_coreType (recipeId : AuthCoreRecipeId) :
    recipeOf recipeId.coreType = some recipeId := by
  cases recipeId <;> decide

section Submitted

variable {host : AuthHost} {input : AuthProviderApplyInput}
variable {state reached : AuthState} {result : AuthProviderApplyResult}
variable {texture core : JsonFields} {existing : Json} {id : String}
variable {auth : JsonFields}

theorem auth_of_provider {pair : JsonFields}
    (found : provider state.config id = some pair) :
    ∃ auth, authOf state.config = some auth ∧
      getField id auth = some (.object pair) := by
  rw [provider] at found
  cases known : authOf state.config with
  | none =>
      rw [known] at found
      cases found
  | some auth =>
      rw [known, Option.bind_some] at found
      cases stored : getField id auth with
      | none =>
          rw [stored] at found
          cases found
      | some value =>
          rw [stored, Option.bind_some] at found
          cases value with
          | object fields =>
              cases found
              exact ⟨auth, rfl, stored⟩
          | null => cases found
          | bool flag => cases found
          | number amount => cases found
          | string text => cases found
          | array items => cases found

theorem providerDetail_of_provider {pair : JsonFields}
    (pattern : authIdPattern id = true)
    (found : provider state.config id = some pair) :
    providerDetail id state =
      (.ok (detailOf state.discordConfig id pair), state) := by
  obtain ⟨auth, known, stored⟩ := auth_of_provider found
  have read : readAuth state = (.ok auth, state) := by
    rw [readAuth, get_bind, known]
    rfl
  have there : hasTruthy id auth = true := by
    rw [hasTruthy, stored]
    rfl
  rw [providerDetail, pattern]
  refine (bind_of_ok rfl _).trans ((bind_of_ok read _).trans ?_)
  rw [there, stored]
  rfl

theorem result_of_run (written : input.recipeId ≠ .file)
    (run : applyProvider host input state = (.ok result, reached)) :
    result.authId = input.authId := by
  obtain ⟨_, _, rest⟩ := lift_bind_eq_ok.mp run
  rw [if_neg written] at rest
  obtain ⟨_, prepared, _, rest⟩ := bind_eq_ok.mp rest
  obtain ⟨_, wrote, _, rest⟩ := bind_eq_ok.mp rest
  obtain ⟨_, verified, _, last⟩ := bind_eq_ok.mp rest
  cases last
  rfl

theorem hasTruthy_next {pair auth : JsonFields}
    (there : hasTruthy id auth = true) :
    hasTruthy id (setField input.authId (.object pair)
      (clearedAuth input auth)) = true := by
  rw [hasTruthy] at there ⊢
  by_cases own : id = input.authId
  · rw [own, getField_setField_self]
    rfl
  · rw [getField_setField_of_ne own, getField_clearedAuth own]
    by_cases wanted : input.isDefault = true
    · rw [if_pos wanted]
      cases stored : getField id auth with
      | none =>
          rw [stored] at there
          exact there
      | some value => rfl
    · rw [if_neg wanted]
      exact there

theorem checkMerge_ok :
    (∃ value : Unit, checkMerge input auth = .ok value) ↔
      (input.recipeId = .merge →
        2 ≤ (input.merge.getD []).length ∧
          ∀ id ∈ input.merge.getD [], hasTruthy id auth = true) := by
  rw [checkMerge]
  by_cases merge : input.recipeId = .merge
  · rw [if_pos merge]
    constructor
    · rintro ⟨value, checked⟩ _
      obtain ⟨_, enough, rest⟩ := outcome_bind_eq_ok.mp checked
      rw [reject] at enough
      by_cases few : (input.merge.getD []).length < 2
      · rw [if_pos (decide_eq_true few)] at enough
        cases enough
      · refine ⟨Nat.le_of_not_lt few, ?_⟩
        cases missing : (input.merge.getD []).find?
            (fun id => !hasTruthy id auth) with
        | none =>
            intro id member
            have there := List.find?_eq_none.mp missing id member
            simpa using there
        | some id =>
            rw [missing] at rest
            cases rest
    · intro checks
      obtain ⟨enough, there⟩ := checks merge
      have none : (input.merge.getD []).find?
          (fun id => !hasTruthy id auth) = none := by
        refine List.find?_eq_none.mpr fun id member => ?_
        rw [there id member]
        exact Bool.false_ne_true
      refine ⟨⟨⟩, outcome_bind_eq_ok.mpr ⟨⟨⟩, ?_, ?_⟩⟩
      · refine if_neg fun few => ?_
        exact Nat.not_lt_of_le enough (of_decide_eq_true few)
      · rw [none]
  · rw [if_neg merge]
    exact iff_of_true ⟨⟨⟩, rfl⟩ fun same => absurd same merge

theorem buildSqlCore_shape {sql : Option AuthSqlCoreConfig}
    {core : JsonFields} (made : buildSqlCore sql existing = .ok core) :
    ∃ config password, sql = some config ∧ core = sqlCore config password := by
  rw [buildSqlCore.eq_def] at made
  cases sql with
  | none => cases made
  | some config =>
      dsimp only at made
      by_cases begins : config.holder.driverPreset.jdbcPrefix.toList.isPrefixOf
          config.holder.jdbcUrl.toList = true
      · rw [if_pos begins] at made
        cases secret : secretOf config.holder.password
            (existingPassword existing) with
        | none =>
            rw [secret] at made
            cases made
        | some password =>
            rw [secret] at made
            cases made
            exact ⟨config, password, rfl, rfl⟩
      · rw [if_neg begins] at made
        cases made

theorem usesPhpass_detail
    {discordConfig : Option Json}
    (recipe : input.recipeId = .sql)
    (made : buildCore input existing = .ok core) :
    usesPhpass ((detailOf discordConfig id
        (pairOf input texture core)).toInput .sql) = usesPhpass input := by
  have type := @coreType_detailOf input existing texture core discordConfig
    id made
  rw [recipe] at type
  rw [buildCore, recipe] at made
  obtain ⟨config, password, sql, rfl⟩ := buildSqlCore_shape made
  have verifier := (buildPasswordVerifier_detail config.passwordVerifier _
    rfl).2
  rw [usesPhpass, usesPhpass, AuthProviderDetail.toInput, sql]
  dsimp only
  rw [detail_sql rfl type]
  refine congrArg (fun type : AuthPasswordVerifierType =>
    (decide (some type = some AuthPasswordVerifierType.phpass) : Bool)) ?_
  exact verifier

theorem merge_detail
    {discordConfig : Option Json}
    (recipe : input.recipeId = .merge)
    (made : buildCore input existing = .ok core) :
    ((detailOf discordConfig id
        (pairOf input texture core)).toInput .merge).merge.getD [] =
      input.merge.getD [] := by
  have type := @coreType_detailOf input existing texture core discordConfig
    id made
  rw [recipe] at type
  rw [buildCore, recipe] at made
  cases made
  rw [AuthProviderDetail.toInput]
  dsimp only
  rw [detail_merge rfl type]
  exact filterMap_strings _

theorem discord_detail
    {environment : AuthEnvironment} {config : AuthDiscordCoreInput}
    {secret : String} (recipe : input.recipeId = .discord)
    (made : buildCore input existing = .ok core) :
    ((detailOf (some (.object
          (discordModuleConfig environment config secret))) id
        (pairOf input texture core)).toInput .discord).discord =
      some (shownDiscord config) := by
  have type := @coreType_detailOf input existing texture core
    (some (.object (discordModuleConfig environment config secret))) id made
  rw [recipe] at type
  rw [AuthProviderDetail.toInput]
  dsimp only
  rw [detail_discord rfl type, Option.map_some, discordDetail_config]

theorem prepares_detail
    {before after : Option Json}
    (made : buildCore input existing = .ok core)
    (prepares : Prepares host input before)
    (stored : ModuleWritten host.environment input before after) :
    Prepares host ((detailOf after id (pairOf input texture core)).toInput
      input.recipeId) after := by
  constructor
  · exact prepares.mojang
  · intro recipe phpass
    have same : input.recipeId = .sql := recipe
    rw [same, usesPhpass_detail same made] at phpass
    exact prepares.phpass same phpass
  · exact prepares.publishes
  · intro recipe
    have same : input.recipeId = .discord := recipe
    obtain ⟨config, secret, _, found, rfl⟩ := stored.discord same
    refine ⟨shownDiscord config, secret, ?_,
      discordSecret_shown host.environment found⟩
    rw [same]
    exact discord_detail same made
  · exact prepares.writes
  · exact prepares.installs

theorem getField_pairOf {first second core : JsonFields} {key : String}
    (different : key ≠ "textureProvider") :
    getField key (pairOf input first core) =
      getField key (pairOf input second core) := by
  have other : ∀ texture : JsonFields,
      getField key (pairOf input texture core) =
        getField key [("isDefault", .bool input.isDefault),
          ("displayName", .string input.displayName),
          ("visible", .bool input.visible), ("core", .object core)] := by
    intro texture
    rw [pairOf, getField, getField, getField, getField, getField, getField,
      getField]
    rw [if_neg (Ne.symm different)]
    rfl
  rw [other, other]

theorem existingPair_next {pair auth : JsonFields} :
    existingPair input.authId (setField input.authId (.object pair)
      (clearedAuth input auth)) = .object pair := by
  rw [existingPair, getField_setField_self]
  rfl

theorem module_reapplied
    {environment : AuthEnvironment}
    {before middle after : Option Json}
    (made : buildCore input existing = .ok core)
    (first : ModuleWritten environment input before middle)
    (second : ModuleWritten environment
      ((detailOf middle id (pairOf input texture core)).toInput
        input.recipeId) middle after) : after = middle := by
  by_cases recipe : input.recipeId = .discord
  · obtain ⟨config, secret, _, found, rfl⟩ := first.discord recipe
    obtain ⟨again, other, asked, kept, written⟩ := second.discord recipe
    rw [recipe, discord_detail recipe made] at asked
    cases asked
    rw [discordSecret_shown environment found] at kept
    cases kept
    rw [written, discordModuleConfig_shown]
  · exact second.others recipe

theorem detailReapplies_of_written (written : input.recipeId ≠ .file)
    (run : applyProvider host input state = (.ok result, reached)) :
    DetailReapplies host input.recipeId input.authId reached := by
  obtain ⟨prepared, auth, pair, same, known, built, after⟩ :=
    applyProvider_ok written run
  obtain ⟨pattern, prepares, found, there, checked, backup, _, write,
    restarts⟩ := (ends_applyProvider written).mp ⟨_, _, run⟩
  rw [same.1, there] at known
  cases known
  have module := moduleWritten_of_run written run
  have stored : provider reached.config input.authId = some pair :=
    (after.provider _).trans provider_nextConfig_self
  have next : authOf reached.config = some (setField input.authId
      (.object pair) (clearedAuth input auth)) :=
    after.1.trans authOf_nextConfig
  obtain ⟨texture, core, rfl, made, following, reapplied, rebuilt⟩ :=
    @buildProviderPair_detail host.environment input _
      reached.discordConfig input.authId pair written built
  have type := @coreType_detailOf input _ texture core reached.discordConfig
    input.authId made
  have rewritten : ((detailOf reached.discordConfig input.authId
      (pairOf input texture core)).toInput input.recipeId).recipeId ≠ .file :=
    written
  have existing : existingPair
      ((detailOf reached.discordConfig input.authId
        (pairOf input texture core)).toInput input.recipeId).authId
      (setField input.authId (.object (pairOf input texture core))
        (clearedAuth input auth)) = .object (pairOf input texture core) :=
    @existingPair_next input (pairOf input texture core) auth
  refine ⟨_, providerDetail_of_provider pattern stored, ?_, ?_, ?_⟩
  · rw [type, recipeOf_coreType]
  · refine (ends_applyProvider rewritten).mpr ⟨pattern,
      prepares_detail made prepares module, _, next, ?_, backup, ?_, write,
        restarts⟩
    · refine checkMerge_ok.mpr fun recipe => ?_
      have merge : input.recipeId = .merge := recipe
      obtain ⟨enough, all⟩ := checkMerge_ok.mp checked merge
      rw [merge, merge_detail merge made]
      exact ⟨enough, fun id member => hasTruthy_next (all id member)⟩
    · rw [existing]
      exact ⟨_, rebuilt⟩
  · intro other again final environment second
    obtain ⟨ready, auths, latter, before, there, remade, stays⟩ :=
      applyProvider_ok rewritten second
    rw [before.1, next] at there
    cases there
    rw [existing, environment, rebuilt] at remade
    cases remade
    constructor
    · refine ⟨_, pairOf input following core, stored, ?_, ?_, ?_⟩
      · exact (stays.provider _).trans provider_nextConfig_self
      · exact fun key different => getField_pairOf different
      · exact congrArg some reapplied.symm
    · have rewrites := moduleWritten_of_run rewritten second
      rw [environment] at rewrites
      exact module_reapplied made module rewrites

theorem findConfigured_eq_some {authId found : String}
    (configured : findConfiguredFileProvider auth authId = some found) :
    configuredAs "fileauthsystem" found auth = true ∧
      (found = authId ∨ found = "fileauthsystem") := by
  rw [findConfiguredFileProvider] at configured
  by_cases own : configuredAs "fileauthsystem" authId auth = true
  · rw [if_pos own] at configured
    cases configured
    exact ⟨own, Or.inl rfl⟩
  · rw [if_neg own] at configured
    by_cases standard :
        configuredAs "fileauthsystem" "fileauthsystem" auth = true
    · rw [if_pos standard] at configured
      cases configured
      exact ⟨standard, Or.inr rfl⟩
    · rw [if_neg standard] at configured
      cases configured

theorem installFileAuth_ok {authId found : String}
    (run : installFileAuth host authId state = (.ok found, reached)) :
    authIdPattern found = true ∧
      (∃ value : Unit, host.install "FileAuthSystem_module" = .ok value) ∧
        ∃ auth, authOf reached.config = some auth ∧
          configuredAs "fileauthsystem" found auth = true := by
  obtain ⟨value, matched, rest⟩ := lift_bind_eq_ok.mp run
  have pattern : authIdPattern authId = true := by
    rw [reject] at matched
    cases accepted : authIdPattern authId with
    | true => rfl
    | false =>
        rw [accepted] at matched
        cases matched
  have accepted : ∀ auth, findConfiguredFileProvider auth authId = some found →
      authIdPattern found = true ∧
        configuredAs "fileauthsystem" found auth = true := by
    intro auth configured
    obtain ⟨there, same | same⟩ := findConfigured_eq_some configured
    · rw [same] at there ⊢
      exact ⟨pattern, there⟩
    · rw [same] at there ⊢
      exact ⟨by decide, there⟩
  obtain ⟨before, first, read, rest⟩ := bind_eq_ok.mp rest
  obtain ⟨_, unchanged⟩ := readAuth_ok read
  rw [unchanged] at rest
  obtain ⟨_, _, rest⟩ := lift_bind_eq_ok.mp rest
  obtain ⟨installed, install, rest⟩ := lift_bind_eq_ok.mp rest
  obtain ⟨loaded, second, again, rest⟩ := bind_eq_ok.mp rest
  obtain ⟨known, still⟩ := readAuth_ok again
  rw [still] at rest
  cases configured : findConfiguredFileProvider loaded authId with
  | some existing =>
      rw [configured] at rest
      cases rest
      obtain ⟨named, there⟩ := accepted loaded configured
      exact ⟨named, ⟨installed, install⟩, loaded, known, there⟩
  | none =>
      rw [configured] at rest
      obtain ⟨_, commanded, _, rest⟩ := bind_eq_ok.mp rest
      obtain ⟨after, third, last, rest⟩ := bind_eq_ok.mp rest
      obtain ⟨final, kept⟩ := readAuth_ok last
      rw [kept] at rest
      cases verified : findConfiguredFileProvider after authId with
      | none =>
          rw [verified] at rest
          cases rest
      | some id =>
          rw [verified] at rest
          cases rest
          obtain ⟨named, there⟩ := accepted after verified
          exact ⟨named, ⟨installed, install⟩, after, final, there⟩

theorem provider_of_configured {id type : String}
    (known : authOf state.config = some auth)
    (configured : configuredAs type id auth = true) :
    ∃ pair, getField id auth = some (.object pair) ∧
      provider state.config id = some pair ∧
        hasCoreType type (.object pair) = true := by
  rw [configuredAs] at configured
  cases stored : getField id auth with
  | none =>
      rw [stored] at configured
      cases configured
  | some value =>
      rw [stored, Option.map_some, Option.getD_some] at configured
      cases value with
      | object pair =>
          refine ⟨pair, rfl, ?_, configured⟩
          rw [provider, known, Option.bind_some, stored]
          rfl
      | null => cases configured
      | bool flag => cases configured
      | number amount => cases configured
      | string text => cases configured
      | array items => cases configured

theorem coreType_of_hasCoreType
    {discordConfig : Option Json} {id : String} {pair : JsonFields}
    {type : String} (typed : hasCoreType type (.object pair) = true) :
    (detailOf discordConfig id pair).coreType = type := by
  have found := of_decide_eq_true typed
  show coreTypeOf (orElse (member "core" (.object pair)) (.object [])) = type
  cases stored : member "core" (.object pair) with
  | none =>
      rw [stored] at found
      cases found
  | some core =>
      rw [stored, Option.bind_some] at found
      have whole : orElse (some core) (.object []) = core := by
        cases core with
        | null => cases found
        | bool flag => rfl
        | number amount => rfl
        | string text => rfl
        | array items => rfl
        | object fields => rfl
      rw [whole, coreTypeOf, found]
      rfl

theorem installFileAuth_configured {id : String} {auth : JsonFields}
    (pattern : authIdPattern id = true)
    (known : authOf state.config = some auth)
    (configured : configuredAs "fileauthsystem" id auth = true) :
    installFileAuth host id state =
      (lift (host.install "FileAuthSystem_module") >>= fun _ => pure id)
        state := by
  obtain ⟨pair, stored, _, _⟩ := provider_of_configured known configured
  have read : readAuth state = (.ok auth, state) := by
    rw [readAuth, get_bind, known]
    rfl
  have there : hasTruthy id auth = true := by
    rw [hasTruthy, stored]
    rfl
  have found : findConfiguredFileProvider auth id = some id :=
    if_pos configured
  rw [installFileAuth, pattern]
  refine (bind_of_ok rfl _).trans ((bind_of_ok read _).trans ?_)
  rw [there]
  refine (bind_of_ok rfl _).trans ?_
  rw [lift_bind, lift_bind]
  cases host.install "FileAuthSystem_module" with
  | error problem => rfl
  | ok value =>
      refine (bind_of_ok read _).trans ?_
      rw [found]

theorem applyProvider_configured
    (recipe : input.recipeId = .file)
    (pattern : authIdPattern input.authId = true)
    (known : authOf state.config = some auth)
    (configured : configuredAs "fileauthsystem" input.authId auth = true) :
    applyProvider host input state =
      (lift (host.install "FileAuthSystem_module") >>= fun _ =>
        pure ⟨input.authId, AuthCoreRecipeId.file.coreType, false⟩) state := by
  have installs := @installFileAuth_configured host state input.authId auth
    pattern known configured
  rw [applyProvider, pattern, if_pos recipe]
  refine (bind_of_ok rfl _).trans ((bind_apply _ _ _).trans ?_)
  rw [installs, lift_bind, lift_bind]
  cases host.install "FileAuthSystem_module" <;> rfl

theorem detailReapplies_of_file (recipe : input.recipeId = .file)
    (run : applyProvider host input state = (.ok result, reached)) :
    DetailReapplies host .file result.authId reached := by
  obtain ⟨_, _, rest⟩ := lift_bind_eq_ok.mp run
  rw [if_pos recipe] at rest
  obtain ⟨found, installed, install, last⟩ := bind_eq_ok.mp rest
  cases last
  obtain ⟨pattern, ⟨value, module⟩, auth, known, configured⟩ :=
    installFileAuth_ok install
  obtain ⟨pair, _, stored, typed⟩ := provider_of_configured known configured
  have type := @coreType_of_hasCoreType reached.discordConfig found pair
    "fileauthsystem" typed
  have again : ∀ other : AuthHost,
      applyProvider other ((detailOf reached.discordConfig found
          pair).toInput .file) reached =
        (lift (other.install "FileAuthSystem_module") >>= fun _ =>
          pure ⟨found, AuthCoreRecipeId.file.coreType, false⟩) reached :=
    fun other => applyProvider_configured rfl pattern known configured
  refine ⟨_, providerDetail_of_provider pattern stored, ?_, ?_, ?_⟩
  · rw [type]
    decide
  · rw [Ends, again]
    exact ⟨_, _, lift_bind_eq_ok.mpr ⟨value, module, rfl⟩⟩
  · intro other answer after _ second
    rw [again] at second
    obtain ⟨_, _, last⟩ := lift_bind_eq_ok.mp second
    cases last
    refine ⟨⟨pair, pair, stored, stored, fun _ _ => rfl, ?_⟩, rfl⟩
    have kept : reappliedTexture host.environment .file = id := by
      funext texture
      exact if_pos rfl
    rw [kept, Option.map_id]
    rfl

/-- The detail of every provider that a call wrote is submitted to the same
effect, apart from the texture provider. -/
theorem detail_reapplied
    (run : applyProvider host input state = (.ok result, reached)) :
    DetailReapplies host input.recipeId result.authId reached := by
  by_cases recipe : input.recipeId = .file
  · rw [recipe]
    exact detailReapplies_of_file recipe run
  · rw [result_of_run recipe run]
    exact detailReapplies_of_written recipe run

end Submitted

/-- A provider with this skin URL in its texture provider. -/
def skinnedState (skinURL : Json) : AuthState where
  config :=
    [("auth", .object [("std", .object
      [("isDefault", .bool true), ("displayName", .string "Players"),
        ("visible", .bool true),
        ("textureProvider", .object
          [("type", .string "request"), ("skinURL", skinURL)]),
        ("core", .object [("type", .string "memory")])])])]
  discordConfig := none

/-- A request for Discord that does not name a texture provider. -/
def discordInput : AuthProviderApplyInput :=
  { stdInput .discord "std" true with
    discord := some
      { clientId := "client"
        clientSecret := some "secret"
        redirectUrl := "https://play.example.org/webapi/auth/discord"
        discordAuthorizeUrl := ""
        discordTokenUrl := ""
        discordApiEndpoint := ""
        requiredGuildIds := []
        useGlobalNickname := true
        usernameRegex := ""
        usernameFormat := ""
        autoRegister := true } }

def textureOf (state : AuthState) : Option Json :=
  (provider state.config "std").bind (getField "textureProvider")

/-- The detail of a Discord provider reapplies. -/
theorem discord_reapplies :
    ∃ result reached,
      applyProvider stdHost discordInput
          (skinnedState (.string "https://skins.example.org")) =
        (.ok result, reached) ∧
      DetailReapplies stdHost discordInput.recipeId result.authId reached :=
  ⟨_, _, rfl, @detail_reapplied stdHost discordInput
    (skinnedState (.string "https://skins.example.org")) _ _ rfl⟩

/-- The texture provider of a Discord provider becomes the panel's, and a URL
that is a number is lost. -/
theorem texture_differs :
    (∃ result reached again after,
      applyProvider stdHost discordInput
          (skinnedState (.string "https://skins.example.org")) =
        (.ok result, reached) ∧
      (∃ detail, providerDetail "std" reached = (.ok detail, reached) ∧
        applyProvider stdHost (detail.toInput .discord) reached =
          (.ok again, after)) ∧
      textureOf after ≠ textureOf reached) ∧
    ∃ result reached again after,
      applyProvider stdHost (stdInput .memory "std" true)
          (skinnedState (.number 5)) = (.ok result, reached) ∧
      (∃ detail, providerDetail "std" reached = (.ok detail, reached) ∧
        applyProvider stdHost (detail.toInput .memory) reached =
          (.ok again, after)) ∧
      textureOf after ≠ textureOf reached := by
  refine ⟨⟨_, _, _, _, rfl, ⟨_, rfl, rfl⟩, ?_⟩,
    ⟨_, _, _, _, rfl, ⟨_, rfl, rfl⟩, ?_⟩⟩
  · intro same
    have types := congrArg (fun texture : Option Json =>
      texture.bind (stringMember "type")) same
    exact absurd types (by decide)
  · intro same
    have urls := congrArg (fun texture : Option Json =>
      (texture.bind (member "skinURL")).isSome) same
    exact absurd urls (by decide)

end GravitPanel.Auth
