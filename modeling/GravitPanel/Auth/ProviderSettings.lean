import GravitPanel.Auth.ApplyProvider

/-!
# Settings of a provider

What a request asks of its provider, as values at paths of keys, and that the
provider built for it has them.
-/

namespace GravitPanel.Auth

open Program Json

def valueAt : List String → Json → Option Json
  | [], value => some value
  | key :: rest, value => (member key value).bind (valueAt rest)

/-- A setting is a path in the provider and the value there. -/
abbrev Setting := List String × Json

def given (path : List String) (value : Option Json) : List Setting :=
  (value.map fun json => (path, json)).toList

def textureSettings
    (environment : AuthEnvironment) (input : AuthProviderApplyInput) :
    List Setting :=
  match input.textureProvider with
  | none => []
  | some config =>
      if asksPanelTexture input then
        match present environment.panelPublicUrl with
        | none => [(["textureProvider"], voidTexture)]
        | some url => [(["textureProvider"], panelTexture url)]
      else
        match config.type with
        | .void => [(["textureProvider"], voidTexture)]
        | .request =>
            [(["textureProvider", "type"], .string "request")] ++
              given ["textureProvider", "skinURL"]
                ((present config.skinURL).map .string) ++
              given ["textureProvider", "cloakURL"]
                ((present config.cloakURL).map .string)

def verifierSettings (config : AuthPasswordVerifierConfig) : List Setting :=
  match config.type with
  | .bcrypt =>
      [(["core", "passwordVerifier", "type"], .string "bcrypt")] ++
        given ["core", "passwordVerifier", "cost"] (config.cost.map .number)
  | .digest =>
      [(["core", "passwordVerifier", "type"], .string "digest")] ++
        given ["core", "passwordVerifier", "algo"] (config.algo.map .string)
  | .doubleDigest =>
      [(["core", "passwordVerifier", "type"], .string "doubleDigest")] ++
        given ["core", "passwordVerifier", "algo"]
          (config.algo.map .string) ++
        given ["core", "passwordVerifier", "toHexMode"]
          (config.toHexMode.map .bool)
  | .phpass =>
      [(["core", "passwordVerifier", "type"], .string "phpass")]

/-- The settings of a database; the password is the one of the request or the
existing one. -/
def sqlSettings (sql : AuthSqlCoreConfig) (existing : Json) :
    List Setting :=
  [(["core", "holder", "driverClass"],
      .string sql.holder.driverPreset.driverClass),
    (["core", "holder", "jdbcUrl"], .string sql.holder.jdbcUrl),
    (["core", "holder", "username"], .string sql.holder.username)] ++
    given ["core", "holder", "password"]
      ((secretOf sql.holder.password (existingPassword existing)).map
        .string) ++
    given ["core", "holder", "hikariMaxLifetime"]
      (sql.holder.hikariMaxLifetime.map .number) ++
    given ["core", "holder", "initializeAtStart"]
      (sql.holder.initializeAtStart.map .bool) ++
    given ["core", "expireSeconds"] (sql.expireSeconds.map .number) ++
    given ["core", "uuidColumn"] (sql.uuidColumn.map .string) ++
    given ["core", "usernameColumn"] (sql.usernameColumn.map .string) ++
    given ["core", "accessTokenColumn"] (sql.accessTokenColumn.map .string) ++
    given ["core", "passwordColumn"] (sql.passwordColumn.map .string) ++
    given ["core", "serverIDColumn"] (sql.serverIDColumn.map .string) ++
    given ["core", "hardwareIdColumn"] (sql.hardwareIdColumn.map .string) ++
    given ["core", "tableHWID"] (sql.tableHWID.map .string) ++
    given ["core", "tableHWIDLog"] (sql.tableHWIDLog.map .string) ++
    given ["core", "table"] (sql.table.map .string) ++
    verifierSettings sql.passwordVerifier

/-- The endpoints; the token is the one of the request or the existing one. -/
def httpSettings (http : AuthHttpCoreConfig) (existing : Json) :
    List Setting :=
  [(["core", "userByUsername"], .string http.userByUsername),
    (["core", "userByUuid"], .string http.userByUuid),
    (["core", "userByToken"], .string http.userByToken),
    (["core", "refreshAccessToken"], .string http.refreshAccessToken),
    (["core", "authorize"], .string http.authorize),
    (["core", "checkServer"], .string http.checkServer),
    (["core", "joinServer"], .string http.joinServer)] ++
    given ["core", "bearerToken"]
      ((secretOf http.bearerToken (stringMember "bearerToken" existing)).map
        .string)

def coreSettings (input : AuthProviderApplyInput) (existing : Json) :
    List Setting :=
  match input.recipeId with
  | .http => (input.http.map fun http => httpSettings http existing).getD []
  | .sql => (input.sql.map fun sql => sqlSettings sql existing).getD []
  | .merge =>
      [(["core", "list"],
        .array ((input.merge.getD []).map Json.string))]
  | _ => []

/-- The settings that a request asks for, given the existing core. -/
def requestedSettings
    (environment : AuthEnvironment) (input : AuthProviderApplyInput)
    (existing : Json) : List Setting :=
  [(["isDefault"], .bool input.isDefault),
    (["displayName"], .string input.displayName),
    (["visible"], .bool input.visible),
    (["core", "type"], .string input.recipeId.coreType)] ++
    textureSettings environment input ++ coreSettings input existing

def HasSettings (pair : JsonFields) (settings : List Setting) : Prop :=
  ∀ setting ∈ settings, valueAt setting.1 (.object pair) = some setting.2

variable {pair : JsonFields}

theorem hasSettings_append
    {first second : List Setting} :
    HasSettings pair (first ++ second) ↔
      HasSettings pair first ∧ HasSettings pair second :=
  List.forall_mem_append

theorem hasSettings_cons
    {setting : Setting} {rest : List Setting} :
    HasSettings pair (setting :: rest) ↔
      valueAt setting.1 (.object pair) = some setting.2 ∧
        HasSettings pair rest :=
  List.forall_mem_cons

theorem hasSettings_nil (pair : JsonFields) : HasSettings pair [] :=
  fun _ impossible => absurd impossible List.not_mem_nil

theorem hasSettings_given
    {path : List String} {value : Option Json}
    (there : ∀ json, value = some json →
      valueAt path (.object pair) = some json) :
    HasSettings pair (given path value) := by
  intro setting inside
  obtain ⟨json, some, rfl⟩ :=
    Option.map_eq_some_iff.mp (Option.mem_toList.mp inside)
  exact there json some

theorem hasSettings_default {Value : Type}
    {path : List String} {value : Option Value}
    {fallback : Value} {wrap : Value → Json}
    (there : valueAt path (.object pair) =
      some (wrap (value.getD fallback))) :
    HasSettings pair (given path (value.map wrap)) := by
  apply hasSettings_given
  intro json some
  cases value with
  | none => cases some
  | some chosen =>
      cases some
      exact there

/-- The fields of a provider with this texture and core. -/
def pairOf
    (input : AuthProviderApplyInput) (texture core : JsonFields) :
    JsonFields :=
  [("isDefault", .bool input.isDefault),
    ("displayName", .string input.displayName),
    ("visible", .bool input.visible),
    ("textureProvider", .object texture),
    ("core", .object core)]

theorem buildProviderPair_ok
    {environment : AuthEnvironment} {input : AuthProviderApplyInput}
    {existing : Json}
    (built : buildProviderPair environment input existing = .ok pair) :
    ∃ core, buildCore input ((member "core" existing).getD .null) =
        .ok core ∧
      pair = pairOf input (buildTextureProvider
        (chosenTexture environment input existing)) core := by
  obtain ⟨core, made, result⟩ := outcome_bind_eq_ok.mp built
  cases result
  exact ⟨core, made, rfl⟩

section Built

variable {environment : AuthEnvironment} {input : AuthProviderApplyInput}
variable {existing : Json} {texture core : JsonFields}

theorem buildHttpCore_ok {http : Option AuthHttpCoreConfig}
    (made : buildHttpCore http existing = .ok core) :
    getField "type" core = some (.string "http") ∧
      HasSettings (pairOf input texture core)
        ((http.map fun http => httpSettings http existing).getD []) := by
  unfold buildHttpCore at made
  cases http with
  | none => cases made
  | some http =>
      dsimp only at made
      cases secret : secretOf http.bearerToken
          (stringMember "bearerToken" existing) with
      | none =>
          rw [secret] at made
          cases made
      | some bearerToken =>
          rw [secret] at made
          cases made
          refine ⟨rfl, ?_⟩
          rw [Option.map_some, Option.getD_some, httpSettings,
            hasSettings_append, secret]
          constructor
          · intro setting inside
            simp only [List.mem_cons, List.not_mem_nil, or_false] at inside
            rcases inside with rfl | rfl | rfl | rfl | rfl | rfl | rfl <;> rfl
          · apply hasSettings_given
            intro json some
            cases some
            rfl

theorem hasSettings_verifier
    (sql : AuthSqlCoreConfig) (password : String) :
    HasSettings (pairOf input texture (sqlCore sql password))
      (verifierSettings sql.passwordVerifier) := by
  have here (rest : List String) :
      valueAt ("core" :: "passwordVerifier" :: rest)
          (.object (pairOf input texture (sqlCore sql password))) =
        valueAt rest (.object (buildPasswordVerifier sql.passwordVerifier)) :=
    rfl
  unfold verifierSettings
  cases kind : sql.passwordVerifier.type with
  | bcrypt =>
      dsimp only
      rw [List.singleton_append, hasSettings_cons]
      constructor
      · rw [here, buildPasswordVerifier, kind]
        rfl
      · apply hasSettings_default
        rw [here, buildPasswordVerifier, kind]
        rfl
  | digest =>
      dsimp only
      rw [List.singleton_append, hasSettings_cons]
      constructor
      · rw [here, buildPasswordVerifier, kind]
        rfl
      · apply hasSettings_default
        rw [here, buildPasswordVerifier, kind]
        rfl
  | doubleDigest =>
      dsimp only
      rw [List.append_assoc, List.singleton_append, hasSettings_cons,
        hasSettings_append]
      refine ⟨?_, ?_, ?_⟩
      · rw [here, buildPasswordVerifier, kind]
        rfl
      · apply hasSettings_default
        rw [here, buildPasswordVerifier, kind]
        rfl
      · apply hasSettings_default
        rw [here, buildPasswordVerifier, kind]
        rfl
  | phpass =>
      dsimp only
      rw [hasSettings_cons]
      refine ⟨?_, hasSettings_nil _⟩
      rw [here, buildPasswordVerifier, kind]
      rfl

theorem buildSqlCore_ok {sql : Option AuthSqlCoreConfig}
    (made : buildSqlCore sql existing = .ok core) :
    getField "type" core = some (.string "sql") ∧
      HasSettings (pairOf input texture core)
        ((sql.map fun sql => sqlSettings sql existing).getD []) := by
  unfold buildSqlCore at made
  cases sql with
  | none => cases made
  | some sql =>
      dsimp only at made
      split at made
      · cases secret : secretOf sql.holder.password
            (existingPassword existing) with
        | none =>
            rw [secret] at made
            cases made
        | some password =>
            rw [secret] at made
            cases made
            refine ⟨rfl, ?_⟩
            rw [Option.map_some, Option.getD_some, sqlSettings, secret]
            simp only [hasSettings_append, and_assoc]
            refine ⟨?_, hasSettings_given ?_, hasSettings_default rfl,
              hasSettings_default rfl, hasSettings_default rfl,
              hasSettings_default rfl, hasSettings_default rfl,
              hasSettings_default rfl, hasSettings_default rfl,
              hasSettings_default rfl, hasSettings_default rfl,
              hasSettings_default rfl, hasSettings_default rfl,
              hasSettings_default rfl, hasSettings_verifier sql password⟩
            · intro setting inside
              simp only [List.mem_cons, List.not_mem_nil, or_false]
                at inside
              rcases inside with rfl | rfl | rfl <;> rfl
            · intro json some
              cases some
              rfl
      · cases made

theorem buildCore_ok
    (made : buildCore input existing = .ok core) :
    getField "type" core = some (.string input.recipeId.coreType) ∧
      HasSettings (pairOf input texture core)
        (coreSettings input existing) := by
  unfold buildCore at made
  unfold coreSettings
  cases recipe : input.recipeId with
  | memory =>
      rw [recipe] at made
      cases made
      exact ⟨rfl, hasSettings_nil _⟩
  | mojang =>
      rw [recipe] at made
      cases made
      exact ⟨rfl, hasSettings_nil _⟩
  | microsoft =>
      rw [recipe] at made
      cases made
      exact ⟨rfl, hasSettings_nil _⟩
  | discord =>
      rw [recipe] at made
      cases made
      exact ⟨rfl, hasSettings_nil _⟩
  | merge =>
      rw [recipe] at made
      cases made
      exact ⟨rfl, hasSettings_cons.mpr ⟨rfl, hasSettings_nil _⟩⟩
  | http =>
      rw [recipe] at made
      exact buildHttpCore_ok made
  | sql =>
      rw [recipe] at made
      exact buildSqlCore_ok made
  | file =>
      rw [recipe] at made
      cases made

theorem buildTextureProvider_request
    {config : AuthTextureProviderConfig} (request : config.type = .request) :
    buildTextureProvider (.object config.toJson) =
      [("type", .string "request")] ++
        ((present config.skinURL).map fun url =>
          ("skinURL", Json.string url)).toList ++
        ((present config.cloakURL).map fun url =>
          ("cloakURL", Json.string url)).toList := by
  obtain ⟨type, skin, cloak⟩ := config
  dsimp only at request
  subst request
  have asked : isVoid (.object (AuthTextureProviderConfig.toJson
      ⟨.request, skin, cloak⟩)) = false := rfl
  rw [buildTextureProvider, asked, if_neg Bool.false_ne_true]
  have chosen (key : String) (url : String) (config : Json)
      (there : member key config = some (.string url)) :
      truthyField key config =
        ((present (some url)).map fun url =>
          (key, Json.string url)).toList := by
    rw [truthyField, there]
    by_cases empty : url = ""
    · subst empty
      rfl
    · have shown : truthy (.string url) = true := decide_eq_true empty
      have kept : present (some url) = some url := by
        simp [present, empty]
      dsimp only
      rw [if_pos shown, kept]
      rfl
  congr 1
  · congr 1
    cases skin with
    | none =>
        cases cloak with
        | none => rfl
        | some cloak => rfl
    | some skin => exact chosen "skinURL" skin _ rfl
  · cases cloak with
    | none =>
        cases skin with
        | none => rfl
        | some skin => rfl
    | some cloak =>
        apply chosen
        cases skin with
        | none => rfl
        | some skin => rfl

theorem buildTextureProvider_panel (url : String) :
    .object (buildTextureProvider (panelTexture url)) = panelTexture url := by
  have shown (path : String) (named : path ≠ "") :
      truthy (.string (withoutLastSlash url ++ path)) = true := by
    apply decide_eq_true
    intro empty
    exact named (String.append_eq_empty_iff.mp empty).2
  have asked : isVoid (panelTexture url) = false := rfl
  rw [buildTextureProvider, asked, if_neg Bool.false_ne_true, truthyField,
    truthyField]
  have skin : member "skinURL" (panelTexture url) =
      some (.string (withoutLastSlash url ++
        "/api/public/skins/%username%.png")) := rfl
  have cloak : member "cloakURL" (panelTexture url) =
      some (.string (withoutLastSlash url ++
        "/api/public/cloaks/%username%.png")) := rfl
  rw [skin, cloak]
  dsimp only
  rw [if_pos (shown _ (by decide)), if_pos (shown _ (by decide))]
  rfl

theorem hasSettings_texture :
    HasSettings
      (pairOf input (buildTextureProvider
        (chosenTexture environment input existing)) core)
      (textureSettings environment input) := by
  have here (texture : JsonFields) (rest : List String) :
      valueAt ("textureProvider" :: rest)
          (.object (pairOf input texture core)) =
        valueAt rest (.object texture) := rfl
  unfold textureSettings chosenTexture
  cases requested : input.textureProvider with
  | none => exact hasSettings_nil _
  | some config =>
      dsimp only
      by_cases panel : asksPanelTexture input = true
      · rw [if_pos panel, if_pos panel]
        cases present environment.panelPublicUrl with
        | none => exact hasSettings_cons.mpr ⟨rfl, hasSettings_nil _⟩
        | some url =>
            refine hasSettings_cons.mpr ⟨?_, hasSettings_nil _⟩
            rw [here]
            exact congrArg some (buildTextureProvider_panel url)
      · rw [if_neg panel, if_neg panel]
        cases kind : config.type with
        | void =>
            refine hasSettings_cons.mpr ⟨?_, hasSettings_nil _⟩
            have written : buildTextureProvider (.object config.toJson) =
                [("type", .string "void")] := by
              apply if_pos
              rw [isVoid, AuthTextureProviderConfig.toJson, kind]
              rfl
            rw [here, written]
            rfl
        | request =>
            dsimp only
            rw [hasSettings_append, hasSettings_append, hasSettings_cons]
            have written := buildTextureProvider_request kind
            refine ⟨⟨⟨?_, hasSettings_nil _⟩, hasSettings_given ?_⟩,
              hasSettings_given ?_⟩
            · rw [here, written]
              rfl
            · intro json some
              rw [here, written]
              cases skin : present config.skinURL with
              | none =>
                  rw [skin] at some
                  cases some
              | some url =>
                  rw [skin] at some
                  cases some
                  rfl
            · intro json some
              rw [here, written]
              cases cloak : present config.cloakURL with
              | none =>
                  rw [cloak] at some
                  cases some
              | some url =>
                  rw [cloak] at some
                  cases some
                  cases present config.skinURL with
                  | none => rfl
                  | some skin => rfl

theorem buildProviderPair_settings {pair : JsonFields}
    (built : buildProviderPair environment input existing = .ok pair) :
    HasSettings pair (requestedSettings environment input
      ((member "core" existing).getD .null)) := by
  obtain ⟨core, made, rfl⟩ := buildProviderPair_ok built
  obtain ⟨type, settings⟩ := buildCore_ok made
  rw [requestedSettings, hasSettings_append, hasSettings_append]
  refine ⟨⟨?_, hasSettings_texture⟩, settings⟩
  have typed : valueAt ["core", "type"] (.object (pairOf input
      (buildTextureProvider (chosenTexture environment input existing))
        core)) = getField "type" core := by
    show (getField "type" core).bind some = _
    cases getField "type" core <;> rfl
  intro setting inside
  simp only [List.mem_cons, List.not_mem_nil, or_false] at inside
  rcases inside with rfl | rfl | rfl | rfl
  · rfl
  · rfl
  · rfl
  · rw [typed]
    exact type

theorem buildProviderPair_isDefault {pair : JsonFields}
    (built : buildProviderPair environment input existing = .ok pair) :
    getField "isDefault" pair = some (.bool input.isDefault) := by
  obtain ⟨core, _, rfl⟩ := buildProviderPair_ok built
  rfl

end Built

end GravitPanel.Auth
