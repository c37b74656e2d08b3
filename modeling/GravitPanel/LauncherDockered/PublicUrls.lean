import GravitPanel.Core.Json

/-!
# Public URLs of the LaunchServer

`synchronizeLaunchServerPublicUrls` of `launcherdockered.service.ts` on the
configuration.  How one URL is rewritten is given; the texts that are rewritten
are the download URLs and the address of the socket.
-/

namespace GravitPanel.LauncherDockered

open Json

inductive UrlScheme where
  | http
  | websocket
  deriving DecidableEq, Repr

/-- A URL rewritten for an updates directory; the flag tells whether that
directory is removed from its path. -/
abbrev UrlRewriter := String → UrlScheme → Bool → String → String

def changeField (key : String) (change : Json → Json) (fields : JsonFields) :
    JsonFields :=
  fields.map fun field =>
    if field.1 = key then (key, change field.2) else field

def changeString (change : String → String) : Json → Json
  | .string value => .string (change value)
  | other => other

def changeObject (change : JsonFields → JsonFields) : Json → Json
  | .object fields => .object (change fields)
  | other => other

theorem changeField_comp
    (key : String) (first second : Json → Json) (fields : JsonFields) :
    changeField key second (changeField key first fields) =
      changeField key (second ∘ first) fields := by
  unfold changeField
  rw [List.map_map]
  apply List.map_congr_left
  intro field _
  by_cases same : field.1 = key
  · simp [same]
  · simp [same]

theorem changeField_comm
    {key other : String} (different : key ≠ other)
    (first second : Json → Json) (fields : JsonFields) :
    changeField key first (changeField other second fields) =
      changeField other second (changeField key first fields) := by
  unfold changeField
  rw [List.map_map, List.map_map]
  apply List.map_congr_left
  intro field _
  by_cases same : field.1 = key
  · simp [same, different]
  · by_cases equal : field.1 = other
    · simp [equal, Ne.symm different]
    · simp [same, equal]

theorem getField_changeField_of_ne
    {key other : String} (different : other ≠ key) (change : Json → Json)
    (fields : JsonFields) :
    getField other (changeField key change fields) =
      getField other fields := by
  induction fields with
  | nil => rfl
  | cons field rest ih =>
      unfold changeField at ih ⊢
      rw [List.map_cons, getField, getField, ih]
      by_cases same : field.1 = key
      · rw [if_pos same, if_neg (fun equal => different equal.symm),
          if_neg (fun equal => different (equal.symm.trans same))]
      · rw [if_neg same]

theorem getField_changeField_self
    (key : String) (change : Json → Json) (fields : JsonFields) :
    getField key (changeField key change fields) =
      (getField key fields).map change := by
  induction fields with
  | nil => rfl
  | cons field rest ih =>
      unfold changeField at ih ⊢
      rw [List.map_cons, getField, getField, ih]
      by_cases same : field.1 = key
      · rw [if_pos same, if_pos rfl, if_pos same]
        rfl
      · rw [if_neg same, if_neg same, if_neg same]

theorem changeString_comp (first second : String → String) (value : Json) :
    changeString second (changeString first value) =
      changeString (second ∘ first) value := by
  cases value <;> rfl

theorem changeObject_comp
    (first second : JsonFields → JsonFields) (value : Json) :
    changeObject second (changeObject first value) =
      changeObject (second ∘ first) value := by
  cases value <;> rfl

/-- The public URLs changed: all of `updatesProvider.urls`, and
`netty.downloadURL` and `netty.address`. -/
def mapPublicUrls
    (change : UrlScheme → Bool → String → String) (config : JsonFields) :
    JsonFields :=
  let provider := changeField "updatesProvider"
    (changeObject (changeField "urls" (changeObject fun urls =>
      urls.map fun url => (url.1, changeString (change .http true) url.2))))
    config
  changeField "netty"
    (changeObject fun values =>
      changeField "address" (changeString (change .websocket false))
        (changeField "downloadURL" (changeString (change .http true)) values))
    provider

/-- `/^[a-zA-Z0-9._-]+$/`. -/
def directoryName (value : String) : Bool :=
  value ≠ "" && value.toList.all fun character =>
    character.isAlphanum || character ∈ ['.', '_', '-']

/-- The configured directory of the updates, or `updates`. -/
def updatesDirectory (config : JsonFields) : String :=
  match ((getField "updatesProvider" config).bind fields?).bind
      (getField "updatesDir") with
  | some (.string configured) =>
      if directoryName configured then configured else "updates"
  | _ => "updates"

def synchronizePublicUrls (rewrite : UrlRewriter) (config : JsonFields) :
    JsonFields :=
  mapPublicUrls (rewrite (updatesDirectory config)) config

def withoutPublicUrls (config : JsonFields) : JsonFields :=
  mapPublicUrls (fun _ _ _ => "") config

theorem mapPublicUrls_mapPublicUrls
    (first second : UrlScheme → Bool → String → String)
    (config : JsonFields) :
    mapPublicUrls second (mapPublicUrls first config) =
      mapPublicUrls (fun scheme strip => second scheme strip ∘
        first scheme strip) config := by
  unfold mapPublicUrls
  dsimp only
  rw [changeField_comm (show "updatesProvider" ≠ "netty" by decide),
    changeField_comp, changeField_comp]
  congr 1
  · funext value
    rw [Function.comp_apply, changeObject_comp]
    congr 1
    funext values
    rw [Function.comp_apply,
      changeField_comm (show "downloadURL" ≠ "address" by decide), changeField_comp,
      changeField_comp]
    congr 1
    · funext text
      exact changeString_comp _ _ text
    · congr 1
      funext text
      exact changeString_comp _ _ text
  · congr 1
    funext value
    rw [Function.comp_apply, changeObject_comp]
    congr 1
    funext values
    rw [Function.comp_apply, changeField_comp]
    congr 1
    funext text
    rw [Function.comp_apply, changeObject_comp]
    congr 1
    funext urls
    rw [Function.comp_apply, List.map_map]
    apply List.map_congr_left
    intro url _
    rw [Function.comp_apply, changeString_comp]

theorem synchronize_withoutPublicUrls
    (rewrite : UrlRewriter) (config : JsonFields) :
    withoutPublicUrls (synchronizePublicUrls rewrite config) =
      withoutPublicUrls config :=
  mapPublicUrls_mapPublicUrls _ _ config

theorem getField_mapPublicUrls
    {key : String} (provider : key ≠ "updatesProvider") (netty : key ≠ "netty")
    (change : UrlScheme → Bool → String → String) (config : JsonFields) :
    getField key (mapPublicUrls change config) = getField key config := by
  unfold mapPublicUrls
  dsimp only
  rw [getField_changeField_of_ne netty, getField_changeField_of_ne provider]

theorem getField_withoutPublicUrls
    {key : String} {config other : JsonFields}
    (same : getField key config = getField key other) :
    getField key (withoutPublicUrls config) =
      getField key (withoutPublicUrls other) := by
  by_cases netty : key = "netty"
  · subst netty
    unfold withoutPublicUrls mapPublicUrls
    dsimp only
    rw [getField_changeField_self, getField_changeField_self,
      getField_changeField_of_ne (by decide),
      getField_changeField_of_ne (by decide), same]
  · by_cases provider : key = "updatesProvider"
    · subst provider
      unfold withoutPublicUrls mapPublicUrls
      dsimp only
      rw [getField_changeField_of_ne netty,
        getField_changeField_of_ne netty, getField_changeField_self,
        getField_changeField_self, same]
    · rw [withoutPublicUrls, withoutPublicUrls,
        getField_mapPublicUrls provider netty,
        getField_mapPublicUrls provider netty, same]

end GravitPanel.LauncherDockered
