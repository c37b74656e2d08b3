import GravitPanel.Auth.DefaultProvider
import GravitPanel.Auth.ProviderDetail

/-!
# Providers that are built for their details

The request of a detail with empty secrets builds the same core and the same
configuration of the Discord module.  The texture provider of a Discord
provider becomes the panel's, and the detail shows only URLs that are texts.
-/

namespace GravitPanel.Auth

open Program Json LauncherDockered

/-- The panel's own texture provider, where the panel has a public URL. -/
def builtInTexture (environment : AuthEnvironment) : Json :=
  match present environment.panelPublicUrl with
  | some url => panelTexture url
  | none => voidTexture

def shownTexture : Json → Json
  | .object fields => .object (fields.filter fun field =>
      (string? field.2).isSome)
  | value => value

/-- The texture provider after the detail is submitted. -/
def reappliedTexture
    (environment : AuthEnvironment) (recipeId : AuthCoreRecipeId)
    (texture : Json) : Json :=
  if recipeId = .file then
    texture
  else if recipeId = .discord ∧
      stringMember "type" texture = some "request" then
    builtInTexture environment
  else
    shownTexture texture

def detailOf (discordConfig : Option Json) (id : String) (pair : JsonFields) :
    AuthProviderDetail :=
  sanitizeProvider discordConfig id (.object pair)

theorem present_eq_some {value : Option String} {text : String}
    (found : present value = some text) :
    value = some text ∧ text ≠ "" := by
  rw [present, Option.filter_eq_some_iff] at found
  exact ⟨found.1, of_decide_eq_true found.2⟩

theorem secretOf_eq_some {given existing : Option String} {secret : String}
    (found : secretOf given existing = some secret) : secret ≠ "" := by
  rw [secretOf, Option.or_eq_some_iff] at found
  rcases found with own | ⟨_, stored⟩
  · exact (present_eq_some own).2
  · exact (present_eq_some stored).2

theorem secretOf_blank {secret : String} (nonempty : secret ≠ "") :
    secretOf (some "") (some secret) = some secret := by
  have blank : present (some "") = none := rfl
  have kept : present (some secret) = some secret := by
    simp [present, nonempty]
  rw [secretOf, blank, kept]
  rfl

theorem detectDriverPreset_driverClass (preset : AuthSqlDriverPreset) :
    detectDriverPreset preset.driverClass = preset := by
  cases preset <;> decide +kernel

theorem buildPasswordVerifier_detail (config : AuthPasswordVerifierConfig)
    (verifier : Json)
    (stored : verifier = .object (buildPasswordVerifier config)) :
    buildPasswordVerifier
        { type := verifierType verifier
          algo := stringMember "algo" verifier
          cost := numberMember "cost" verifier
          toHexMode := boolMember "toHexMode" verifier } =
      buildPasswordVerifier config ∧
        verifierType verifier = config.type := by
  subst stored
  cases kind : config.type with
  | bcrypt =>
      have stored : buildPasswordVerifier config =
          [("type", .string "bcrypt"),
            ("cost", .number (config.cost.getD 10))] := by
        rw [buildPasswordVerifier, kind]
      rw [stored]
      exact ⟨rfl, rfl⟩
  | digest =>
      have stored : buildPasswordVerifier config =
          [("type", .string "digest"),
            ("algo", .string (config.algo.getD "SHA256"))] := by
        rw [buildPasswordVerifier, kind]
      rw [stored]
      exact ⟨rfl, rfl⟩
  | doubleDigest =>
      have stored : buildPasswordVerifier config =
          [("type", .string "doubleDigest"),
            ("algo", .string (config.algo.getD "SHA256")),
            ("toHexMode", .bool (config.toHexMode.getD true))] := by
        rw [buildPasswordVerifier, kind]
      rw [stored]
      exact ⟨rfl, rfl⟩
  | phpass =>
      have stored : buildPasswordVerifier config =
          [("type", .string "phpass")] := by
        rw [buildPasswordVerifier, kind]
      rw [stored]
      exact ⟨rfl, rfl⟩

/-- The request for a database, with its defaults written out. -/
def completed (sql : AuthSqlCoreConfig) (verifier : Json) :
    AuthSqlCoreConfig where
  holder :=
    { driverPreset :=
        detectDriverPreset sql.holder.driverPreset.driverClass
      jdbcUrl := sql.holder.jdbcUrl
      username := sql.holder.username
      password := some ""
      hikariMaxLifetime :=
        some (sql.holder.hikariMaxLifetime.getD 1800000)
      initializeAtStart := some (sql.holder.initializeAtStart.getD false) }
  expireSeconds := some (sql.expireSeconds.getD 3600)
  table := some (sql.table.getD "users")
  uuidColumn := some (sql.uuidColumn.getD "uuid")
  usernameColumn := some (sql.usernameColumn.getD "username")
  accessTokenColumn := some (sql.accessTokenColumn.getD "accesstoken")
  passwordColumn := some (sql.passwordColumn.getD "password")
  serverIDColumn := some (sql.serverIDColumn.getD "serverid")
  hardwareIdColumn := some (sql.hardwareIdColumn.getD "hwidId")
  tableHWID := some (sql.tableHWID.getD "hwids")
  tableHWIDLog := some (sql.tableHWIDLog.getD "hwidLog")
  passwordVerifier :=
    { type := verifierType verifier
      algo := stringMember "algo" verifier
      cost := numberMember "cost" verifier
      toHexMode := boolMember "toHexMode" verifier }

theorem sqlDetail_sqlCore (sql : AuthSqlCoreConfig) (password : String) :
    (sqlDetail (.object (sqlCore sql password))).toInput =
      completed sql (.object (buildPasswordVerifier sql.passwordVerifier)) :=
  rfl

theorem sqlCore_completed (sql : AuthSqlCoreConfig) (password : String) :
    sqlCore (completed sql
        (.object (buildPasswordVerifier sql.passwordVerifier))) password =
      sqlCore sql password := by
  have verifier := (buildPasswordVerifier_detail sql.passwordVerifier _
    rfl).1
  rw [sqlCore, completed, detectDriverPreset_driverClass, verifier]
  rfl

theorem buildSqlCore_detail {sql : Option AuthSqlCoreConfig}
    {existing : Json} {core : JsonFields}
    (made : buildSqlCore sql existing = .ok core) :
    buildSqlCore (some (sqlDetail (.object core)).toInput) (.object core) =
      .ok core := by
  rw [buildSqlCore.eq_def] at made
  cases sql with
  | none => cases made
  | some sql =>
      dsimp only at made
      by_cases begins : sql.holder.driverPreset.jdbcPrefix.toList.isPrefixOf
          sql.holder.jdbcUrl.toList = true
      · rw [if_pos begins] at made
        cases secret : secretOf sql.holder.password
            (existingPassword existing) with
        | none =>
            rw [secret] at made
            cases made
        | some password =>
            rw [secret] at made
            cases made
            have kept : secretOf
                (completed sql (.object (buildPasswordVerifier
                  sql.passwordVerifier))).holder.password
                (existingPassword (.object (sqlCore sql password))) =
                  some password :=
              secretOf_blank (secretOf_eq_some secret)
            have again : (completed sql (.object (buildPasswordVerifier
                sql.passwordVerifier))).holder.driverPreset =
                  sql.holder.driverPreset :=
              detectDriverPreset_driverClass _
            rw [sqlDetail_sqlCore, buildSqlCore, again, kept]
            exact (if_pos begins).trans
              (congrArg Except.ok (sqlCore_completed sql password))
      · rw [if_neg begins] at made
        cases made

theorem buildHttpCore_detail {http : Option AuthHttpCoreConfig}
    {existing : Json} {core : JsonFields}
    (made : buildHttpCore http existing = .ok core) :
    buildHttpCore (some (httpDetail (.object core)).toInput) (.object core) =
      .ok core := by
  rw [buildHttpCore.eq_def] at made
  cases http with
  | none => cases made
  | some http =>
      dsimp only at made
      cases secret : secretOf http.bearerToken
          (stringMember "bearerToken" existing) with
      | none =>
          rw [secret] at made
          cases made
      | some bearerToken =>
          rw [secret] at made
          have stored := (Except.ok.inj made).symm
          have kept : secretOf (httpDetail (.object core)).toInput.bearerToken
              (stringMember "bearerToken" (.object core)) =
                some bearerToken := by
            rw [stored]
            exact secretOf_blank (secretOf_eq_some secret)
          rw [buildHttpCore, kept, stored]
          rfl

theorem filterMap_strings (texts : List String) :
    (texts.map Json.string).filterMap string? = texts := by
  rw [List.filterMap_map]
  exact List.filterMap_some

section Built

variable {environment : AuthEnvironment} {input : AuthProviderApplyInput}
variable {existing : Json} {texture core : JsonFields}
variable {discordConfig : Option Json} {id : String}

theorem coreType_detailOf
    (made : buildCore input existing = .ok core) :
    (detailOf discordConfig id (pairOf input texture core)).coreType =
      input.recipeId.coreType := by
  have type := (@buildCore_ok input existing texture core made).1
  show ((member "type" (.object core)).bind string?).getD "unknown" = _
  rw [member, fields?, Option.bind_some, type]
  rfl

section Shown

variable {detail : AuthProviderDetail}
variable (own : detail = detailOf discordConfig id (pairOf input texture core))

include own

theorem detail_sql (type : detail.coreType = "sql") :
    detail.sql = some (sqlDetail (.object core)) := by
  rw [own] at type ⊢
  exact (if_pos type : (if (detailOf discordConfig id
    (pairOf input texture core)).coreType = "sql"
      then some (sqlDetail (.object core)) else none) = _)

theorem detail_http (type : detail.coreType = "http") :
    detail.http = some (httpDetail (.object core)) := by
  rw [own] at type ⊢
  exact (if_pos type : (if (detailOf discordConfig id
    (pairOf input texture core)).coreType = "http"
      then some (httpDetail (.object core)) else none) = _)

theorem detail_merge (type : detail.coreType = "merge") :
    detail.merge = some (listMember "list" (.object core)) := by
  rw [own] at type ⊢
  exact (if_pos type : (if (detailOf discordConfig id
    (pairOf input texture core)).coreType = "merge"
      then some (listMember "list" (.object core)) else none) = _)

theorem detail_discord (type : detail.coreType = "discordauthsystem") :
    detail.discord = some (discordDetail discordConfig) := by
  rw [own] at type ⊢
  exact (if_pos type : (if (detailOf discordConfig id
    (pairOf input texture core)).coreType = "discordauthsystem"
      then some (discordDetail discordConfig) else none) = _)

end Shown

theorem buildCore_detail
    (made : buildCore input existing = .ok core) :
    buildCore
        ((detailOf discordConfig id (pairOf input texture core)).toInput
          input.recipeId)
        (.object core) = .ok core := by
  have type := @coreType_detailOf _ _ texture _ discordConfig id made
  rw [buildCore] at made ⊢
  cases recipe : input.recipeId with
  | memory =>
      rw [recipe] at made
      exact made
  | mojang =>
      rw [recipe] at made
      exact made
  | microsoft =>
      rw [recipe] at made
      exact made
  | discord =>
      rw [recipe] at made
      exact made
  | file =>
      rw [recipe] at made
      cases made
  | merge =>
      rw [recipe] at made type
      have stored := (Except.ok.inj made).symm
      have texts : listMember "list" (.object core) =
          input.merge.getD [] := by
        rw [stored]
        exact filterMap_strings _
      simp only [AuthProviderDetail.toInput]
      rw [detail_merge rfl type, texts, stored]
      rfl
  | http =>
      rw [recipe] at made type
      simp only [AuthProviderDetail.toInput]
      rw [detail_http rfl type]
      exact buildHttpCore_detail made
  | sql =>
      rw [recipe] at made type
      simp only [AuthProviderDetail.toInput]
      rw [detail_sql rfl type]
      exact buildSqlCore_detail made

theorem truthyField_cases (key : String) (config : Json) :
    truthyField key config = [] ∨
      ∃ value, truthyField key config = [(key, value)] := by
  rw [truthyField]
  cases member key config with
  | none => exact Or.inl rfl
  | some value =>
      dsimp only
      by_cases shown : truthy value = true
      · rw [if_pos shown]
        exact Or.inr ⟨value, rfl⟩
      · rw [if_neg shown]
        exact Or.inl rfl

theorem shown_truthyField (key : String) (config : Json) :
    (getField key (truthyField key config)).bind string? =
        present (stringMember key config) ∧
      ((truthyField key config).filter fun field =>
          (string? field.2).isSome) =
        ((present (stringMember key config)).map fun url =>
          (key, Json.string url)).toList := by
  rw [truthyField, stringMember]
  cases member key config with
  | none => exact ⟨rfl, rfl⟩
  | some value =>
      dsimp only [Option.bind_some]
      cases value with
      | null => exact ⟨rfl, rfl⟩
      | bool flag =>
          cases flag with
          | false => exact ⟨rfl, rfl⟩
          | true =>
              have shown : truthy (.bool true) = true := rfl
              rw [if_pos shown, getField, if_pos rfl]
              exact ⟨rfl, rfl⟩
      | number amount =>
          by_cases shown : truthy (.number amount) = true
          · rw [if_pos shown, getField, if_pos rfl]
            exact ⟨rfl, rfl⟩
          · rw [if_neg shown]
            exact ⟨rfl, rfl⟩
      | string text =>
          by_cases empty : text = ""
          · rw [empty]
            exact ⟨rfl, rfl⟩
          · have shown : truthy (.string text) = true :=
              decide_eq_true empty
            have kept : present (some text) = some text := by
              simp [present, empty]
            rw [if_pos shown, getField, if_pos rfl]
            exact ⟨kept.symm, congrArg (fun url : Option String =>
              (url.map fun url => (key, Json.string url)).toList) kept.symm⟩
      | array items =>
          have shown : truthy (.array items) = true := rfl
          rw [if_pos shown, getField, if_pos rfl]
          exact ⟨rfl, rfl⟩
      | object fields =>
          have shown : truthy (.object fields) = true := rfl
          rw [if_pos shown, getField, if_pos rfl]
          exact ⟨rfl, rfl⟩

theorem present_present (value : Option String) :
    present (present value) = present value := by
  rw [present, present, Option.filter_filter]
  simp

theorem textureDetail_request {config : Json} (asked : isVoid config = false) :
    textureDetail (.object (buildTextureProvider config)) =
      ⟨.request, present (stringMember "skinURL" config),
        present (stringMember "cloakURL" config)⟩ := by
  have written : buildTextureProvider config =
      [("type", .string "request")] ++ truthyField "skinURL" config ++
        truthyField "cloakURL" config := by
    rw [buildTextureProvider, asked, if_neg Bool.false_ne_true]
  rw [written, ← (shown_truthyField "skinURL" config).1,
    ← (shown_truthyField "cloakURL" config).1]
  rcases truthyField_cases "skinURL" config with skin | ⟨skin, shape⟩
  · rw [skin]
    rcases truthyField_cases "cloakURL" config with cloak | ⟨cloak, shape⟩
    · rw [cloak]
      rfl
    · rw [shape]
      rfl
  · rw [shape]
    rcases truthyField_cases "cloakURL" config with cloak | ⟨cloak, other⟩
    · rw [cloak]
      rfl
    · rw [other]
      rfl

theorem shownTexture_request {config : Json} (asked : isVoid config = false) :
    shownTexture (.object (buildTextureProvider config)) =
      .object (buildTextureProvider (.object
        (textureDetail (.object (buildTextureProvider config))).toJson)) := by
  rw [textureDetail_request asked, buildTextureProvider_request rfl,
    buildTextureProvider, asked, if_neg Bool.false_ne_true, shownTexture,
    List.filter_append, List.filter_append,
    (shown_truthyField "skinURL" config).2,
    (shown_truthyField "cloakURL" config).2]
  dsimp only
  rw [present_present, present_present]
  rfl

theorem asksPanelTexture_shown {texture : Json}
    (shown : input.textureProvider = some (textureDetail texture)) :
    asksPanelTexture input = true ↔
      input.recipeId = .discord ∧
        stringMember "type" texture = some "request" := by
  have kind : (textureDetail texture).type = .request ↔
      stringMember "type" texture = some "request" := by
    rw [textureDetail]
    by_cases request : stringMember "type" texture = some "request"
    · rw [if_pos request]
      exact iff_of_true rfl request
    · rw [if_neg request]
      refine iff_of_false (fun same => ?_) request
      cases same
  rw [asksPanelTexture, shown, Bool.and_eq_true, decide_eq_true_eq,
    decide_eq_true_eq, Option.map_some, Option.some_inj, kind]

theorem buildTextureProvider_detail
    (environment : AuthEnvironment) (config existing : Json)
    (written : input.recipeId ≠ .file)
    (shown : input.textureProvider =
      some (textureDetail (.object (buildTextureProvider config)))) :
    Json.object (buildTextureProvider
        (chosenTexture environment input existing)) =
      reappliedTexture environment input.recipeId
        (.object (buildTextureProvider config)) := by
  rw [reappliedTexture, if_neg written, chosenTexture]
  have asks := asksPanelTexture_shown shown
  by_cases panel : input.recipeId = .discord ∧
      stringMember "type" (.object (buildTextureProvider config)) =
        some "request"
  · rw [if_pos panel, if_pos (asks.mpr panel), builtInTexture]
    cases present environment.panelPublicUrl with
    | none => rfl
    | some url => exact buildTextureProvider_panel url
  · rw [if_neg panel, if_neg fun asked => panel (asks.mp asked), shown]
    by_cases void : isVoid config = true
    · have stored : buildTextureProvider config =
          [("type", .string "void")] := if_pos void
      rw [stored]
      rfl
    · exact (shownTexture_request (Bool.eq_false_iff.mpr void)).symm

theorem buildProviderPair_detail {pair : JsonFields}
    (written : input.recipeId ≠ .file)
    (built : buildProviderPair environment input existing = .ok pair) :
    ∃ texture core, pair = pairOf input texture core ∧
      buildCore input ((member "core" existing).getD .null) = .ok core ∧
      ∃ next,
        reappliedTexture environment input.recipeId (.object texture) =
            .object next ∧
          buildProviderPair environment
              ((detailOf discordConfig id pair).toInput input.recipeId)
              (.object pair) =
            .ok (pairOf input next core) := by
  obtain ⟨core, made, rfl⟩ := buildProviderPair_ok built
  have texture := @buildTextureProvider_detail
    ((detailOf discordConfig id (pairOf input (buildTextureProvider
      (chosenTexture environment input existing)) core)).toInput
        input.recipeId)
    environment (chosenTexture environment input existing)
    (.object (pairOf input (buildTextureProvider
      (chosenTexture environment input existing)) core)) written rfl
  refine ⟨_, core, rfl, made, _, texture.symm, ?_⟩
  have same : ∀ next : JsonFields,
      pairOf ((detailOf discordConfig id (pairOf input
        (buildTextureProvider (chosenTexture environment input existing))
          core)).toInput input.recipeId) next core =
        pairOf input next core := by
    intro next
    have flag : decide (some input.isDefault = some true) =
        input.isDefault := by
      cases input.isDefault <;> rfl
    have seen : decide (some input.visible ≠ some false) =
        input.visible := by
      cases input.visible <;> rfl
    show [("isDefault", Json.bool (decide (some input.isDefault = some true))),
      ("displayName", .string input.displayName),
      ("visible", .bool (decide (some input.visible ≠ some false))),
      ("textureProvider", .object next), ("core", .object core)] = _
    rw [flag, seen]
    rfl
  have again := @buildCore_detail input _ (buildTextureProvider
    (chosenTexture environment input existing)) core discordConfig id made
  refine Eq.trans ?_ (congrArg Except.ok (same _))
  rw [buildProviderPair]
  exact outcome_bind_eq_ok.mpr ⟨core, again, rfl⟩

end Built

theorem discordSecret_nonempty
    {config : AuthDiscordCoreInput} {existing : Option Json} {secret : String}
    (found : discordSecret config existing = .ok secret) :
    secret ≠ "" ∧ config.clientId ≠ "" ∧ config.redirectUrl ≠ "" := by
  rw [discordSecret.eq_def] at found
  cases stored : secretOf config.clientSecret
      (existing.bind (stringMember "clientSecret")) with
  | none =>
      rw [stored] at found
      cases found
  | some clientSecret =>
      rw [stored] at found
      dsimp only at found
      by_cases incomplete : config.clientId = "" ∨ config.redirectUrl = ""
      · rw [if_pos incomplete] at found
        cases found
      · rw [if_neg incomplete] at found
        cases found
        exact ⟨secretOf_eq_some stored,
          fun empty => incomplete (Or.inl empty),
          fun empty => incomplete (Or.inr empty)⟩

theorem orDefault_orDefault (value fallback : String) :
    orDefault (orDefault value fallback) fallback =
      orDefault value fallback := by
  by_cases empty : value = ""
  · rw [orDefault, orDefault, if_pos empty]
    exact ite_self _
  · rw [orDefault, orDefault, if_neg empty, if_neg empty]

/-- The request that the detail of a module's configuration makes. -/
def shownDiscord (config : AuthDiscordCoreInput) : AuthDiscordCoreInput where
  clientId := config.clientId
  clientSecret := some ""
  redirectUrl := config.redirectUrl
  discordAuthorizeUrl := orDefault config.discordAuthorizeUrl
    "https://discord.com/oauth2/authorize"
  discordTokenUrl := orDefault config.discordTokenUrl
    "https://discord.com/api/oauth2/token"
  discordApiEndpoint := orDefault config.discordApiEndpoint
    "https://discord.com/api/v10"
  requiredGuildIds :=
    (config.requiredGuildIds.map Json.string).filterMap string?
  useGlobalNickname := config.useGlobalNickname
  usernameRegex := orDefault config.usernameRegex
    "^[a-zA-Z0-9_]\x7b3,16\x7d$"
  usernameFormat := orDefault config.usernameFormat "\x7bdiscord\x7d"
  autoRegister := config.autoRegister

theorem discordDetail_config (environment : AuthEnvironment)
    (config : AuthDiscordCoreInput) (secret : String) :
    (discordDetail (some (.object
        (discordModuleConfig environment config secret)))).toInput =
      shownDiscord config := rfl

theorem discordModuleConfig_shown (environment : AuthEnvironment)
    (config : AuthDiscordCoreInput) (secret : String) :
    discordModuleConfig environment (shownDiscord config) secret =
      discordModuleConfig environment config secret := by
  rw [discordModuleConfig, shownDiscord]
  dsimp only
  rw [orDefault_orDefault, orDefault_orDefault, orDefault_orDefault,
    orDefault_orDefault, orDefault_orDefault, filterMap_strings]
  rfl

theorem discordSecret_shown (environment : AuthEnvironment)
    {config : AuthDiscordCoreInput} {existing : Option Json} {secret : String}
    (found : discordSecret config existing = .ok secret) :
    discordSecret (shownDiscord config) (some (.object
        (discordModuleConfig environment config secret))) = .ok secret := by
  obtain ⟨nonempty, client, redirect⟩ := discordSecret_nonempty found
  have kept : secretOf (shownDiscord config).clientSecret
      ((some (Json.object (discordModuleConfig environment config
        secret))).bind (stringMember "clientSecret")) = some secret :=
    secretOf_blank nonempty
  have complete : ¬ ((shownDiscord config).clientId = "" ∨
      (shownDiscord config).redirectUrl = "") := by
    rintro (empty | empty)
    · exact client empty
    · exact redirect empty
  rw [discordSecret, kept]
  exact if_neg complete

end GravitPanel.Auth
