import Mathlib.Algebra.Order.Ring.Nat
import GravitPanel.Core.WebUrl

/-!
# Redirects after a login

`safeReturnTo` and `withAuthError` of `panel-auth.routes.ts`, on strings of
UTF-16 code units.  What they return is a path of the panel with a query that
was written by `URLSearchParams`.
-/

namespace GravitPanel.PanelAuth

open WebUrl

def defaultAdminPath : List Nat := ascii "/panel/status"

def adminPaths : List (List Nat) :=
  ["/panel",
    "/panel/setup",
    "/panel/status",
    "/panel/jobs",
    "/panel/modules",
    "/panel/files",
    "/panel/auth",
    "/panel/users",
    "/panel/launcher",
    "/panel/clients",
    "/panel/mods",
    "/panel/servers",
    "/panel/server/overview",
    "/panel/server/console",
    "/panel/server/files",
    "/panel/server/mods",
    "/panel/server/deployment",
    "/panel/public-settings"].map ascii

/-- `https://panel.invalid`. -/
def panelInvalid : Url where
  scheme := .https
  host := ascii "panel.invalid"
  port := none
  path := [[]]
  query := none
  fragment := none

def authErrorName : List Char := "authError".toList

/-- `safeReturnTo`, with `none` for what is not a string. -/
def safeReturnTo (platform : Platform) (value : Option (List Nat)) :
    List Nat :=
  match value with
  | none => defaultAdminPath
  | some text =>
      if !(ascii "/").isPrefixOf text || (ascii "//").isPrefixOf text then
        defaultAdminPath
      else
        match resolve platform panelInvalid text with
        | none => defaultAdminPath
        | some url =>
            if url.origin ≠ ascii "https://panel.invalid" ∨
                url.pathname ∉ adminPaths ∨ url.hash ≠ [] then
              defaultAdminPath
            else
              let cleared := url.deleteParameter authErrorName
              cleared.pathname ++ cleared.search

/-- `withAuthError`, where `none` is the error that the constructor of the URL
would throw. -/
def withAuthError (platform : Platform) (returnTo error : List Nat) :
    Option (List Nat) :=
  (resolve platform panelInvalid
      (safeReturnTo platform (some returnTo))).map fun url =>
    let marked := url.setParameter authErrorName (scalars error)
    marked.pathname ++ marked.search

/-- A location that a browser at the panel resolves to a page of the panel. -/
def StaysOnPanel (platform : Platform) (panel : Url) (location : List Nat) :
    Prop :=
  ∃ url, resolve platform panel location = some url ∧
    url.origin = panel.origin ∧ url.pathname ∈ adminPaths

/-- The two functions return pages of the panel at every origin, and a location
that is returned is returned again. -/
structure RedirectsSafely (platform : Platform)
    (value : Option (List Nat)) : Prop where
  plain :
    ∀ panel, StaysOnPanel platform panel (safeReturnTo platform value)
  marked :
    ∀ error panel, ∃ location,
      withAuthError platform (safeReturnTo platform value) error =
          some location ∧
        StaysOnPanel platform panel location
  idempotent :
    safeReturnTo platform (some (safeReturnTo platform value)) =
      safeReturnTo platform value

/-- The path of a page of the panel as plain segments. -/
def IsPage (segments : List (List Nat)) : Prop :=
  segments ≠ [] ∧ (∀ segment ∈ segments, isPlainSegment segment = true) ∧
    segments.flatMap (47 :: ·) ∈ adminPaths

theorem page_of_mem {path : List Nat} (member : path ∈ adminPaths) :
    ∃ segments, IsPage segments ∧ path = segments.flatMap (47 :: ·) := by
  have pages : ∀ path ∈ adminPaths,
      (path.drop 1).splitOn 47 ≠ [] ∧
        ((path.drop 1).splitOn 47).all isPlainSegment = true ∧
          ((path.drop 1).splitOn 47).flatMap (47 :: ·) = path := by
    decide +kernel
  obtain ⟨nonempty, plain, same⟩ := pages path member
  refine ⟨_, ⟨nonempty, List.all_eq_true.mp plain, ?_⟩, same.symm⟩
  rw [same]
  exact member

def location (segments : List (List Nat))
    (parameters : List UrlEncoded.Parameter) : List Nat :=
  target segments (UrlEncoded.serialize parameters)

def pageUrl (panel : Url) (segments : List (List Nat))
    (parameters : List UrlEncoded.Parameter) : Url :=
  { panel with
    path := segments
    query := queryOf (UrlEncoded.serialize parameters)
    fragment := none }

variable {segments : List (List Nat)}

theorem resolve_location
    (page : IsPage segments) (platform : Platform) (panel : Url)
    (parameters : List UrlEncoded.Parameter) :
    resolve platform panel (location segments parameters) =
      some (pageUrl panel segments parameters) :=
  resolve_target platform panel page.1 page.2.1 (serialize_safe parameters)

theorem staysOnPanel_location
    (page : IsPage segments) (platform : Platform) (panel : Url)
    (parameters : List UrlEncoded.Parameter) :
    StaysOnPanel platform panel (location segments parameters) :=
  ⟨_, resolve_location page platform panel parameters, rfl, page.2.2⟩

theorem default_location :
    ∃ segments, IsPage segments ∧ defaultAdminPath = location segments [] := by
  have member : defaultAdminPath ∈ adminPaths := by decide
  obtain ⟨segments, page, same⟩ := page_of_mem member
  refine ⟨segments, page, ?_⟩
  rw [same]
  exact (List.append_nil _).symm

/-- Every location is the one of a page, with parameters none of which is an
error. -/
theorem safeReturnTo_location (platform : Platform)
    (value : Option (List Nat)) :
    ∃ segments parameters, IsPage segments ∧
      (∀ parameter ∈ parameters, parameter.1 ≠ authErrorName) ∧
        safeReturnTo platform value = location segments parameters := by
  obtain ⟨standard, standardPage, standardShape⟩ := default_location
  have fallback : ∃ segments parameters, IsPage segments ∧
      (∀ parameter ∈ parameters, parameter.1 ≠ authErrorName) ∧
        defaultAdminPath = location segments parameters :=
    ⟨standard, [], standardPage, by simp, standardShape⟩
  cases value with
  | none => exact fallback
  | some text =>
      rw [safeReturnTo]
      by_cases outside :
          (!(ascii "/").isPrefixOf text || (ascii "//").isPrefixOf text) = true
      · rw [if_pos outside]
        exact fallback
      · rw [if_neg outside]
        cases resolved : resolve platform panelInvalid text with
        | none => exact fallback
        | some url =>
            simp only
            by_cases refused :
                url.origin ≠ ascii "https://panel.invalid" ∨
                  url.pathname ∉ adminPaths ∨ url.hash ≠ []
            · rw [if_pos refused]
              exact fallback
            · rw [if_neg refused]
              have member : url.pathname ∈ adminPaths := by
                by_contra absent
                exact refused (Or.inr (Or.inl absent))
              obtain ⟨segments, page, same⟩ := page_of_mem member
              refine ⟨segments,
                url.searchParams.filter (·.1 ≠ authErrorName), page, ?_, ?_⟩
              · intro parameter kept
                exact of_decide_eq_true (List.mem_filter.mp kept).2
              · rw [Url.deleteParameter, search_withParameters, location,
                  target, target]
                exact congrArg (· ++ _) same

theorem searchParams_pageUrl (panel : Url) (segments : List (List Nat))
    (parameters : List UrlEncoded.Parameter) :
    (pageUrl panel segments parameters).searchParams = parameters :=
  parse_queryOf parameters

theorem withAuthError_location
    (page : IsPage segments) (platform : Platform)
    {parameters : List UrlEncoded.Parameter} {returnTo : List Nat}
    (shape : safeReturnTo platform (some returnTo) =
      location segments parameters) (error : List Nat) :
    withAuthError platform returnTo error =
      some (location segments
        (Url.replaceFirst authErrorName (scalars error) parameters)) := by
  rw [withAuthError, shape, resolve_location page, Option.map_some]
  simp only
  rw [Url.setParameter, search_withParameters, searchParams_pageUrl]
  rfl

theorem safeReturnTo_of_location
    (page : IsPage segments) (platform : Platform)
    {parameters : List UrlEncoded.Parameter}
    (cleared : ∀ parameter ∈ parameters, parameter.1 ≠ authErrorName) :
    safeReturnTo platform (some (location segments parameters)) =
      location segments parameters := by
  have begins : ∃ letter rest,
      isPathUnit letter = true ∧
        location segments parameters = 47 :: letter :: rest := by
    obtain ⟨first, others, rfl⟩ := List.exists_cons_of_ne_nil page.1
    have own := page.2.1 first List.mem_cons_self
    rw [isPlainSegment, Bool.and_eq_true, decide_eq_true_eq] at own
    obtain ⟨letter, rest, rfl⟩ := List.exists_cons_of_ne_nil own.1
    rw [List.all_cons, Bool.and_eq_true] at own
    exact ⟨letter, _, own.2.1, rfl⟩
  have inside :
      (!(ascii "/").isPrefixOf (location segments parameters) ||
        (ascii "//").isPrefixOf (location segments parameters)) = false := by
    obtain ⟨letter, rest, kept, shape⟩ := begins
    have different : (47 == letter) = false := by
      refine beq_eq_false_iff_ne.mpr ?_
      rintro rfl
      cases kept
    rw [shape]
    simp [ascii, List.isPrefixOf, different]
  have accepted :
      ¬ ((pageUrl panelInvalid segments parameters).origin ≠
            ascii "https://panel.invalid" ∨
          (pageUrl panelInvalid segments parameters).pathname ∉ adminPaths ∨
            (pageUrl panelInvalid segments parameters).hash ≠ []) := by
    have own : panelInvalid.origin = ascii "https://panel.invalid" := by
      decide
    rintro (foreign | unknown | marked)
    · exact foreign own
    · exact unknown page.2.2
    · exact marked rfl
  rw [safeReturnTo, inside, if_neg Bool.false_ne_true,
    resolve_location page]
  simp only
  rw [if_neg accepted, Url.deleteParameter, search_withParameters,
    searchParams_pageUrl, List.filter_eq_self.mpr]
  · rfl
  · intro parameter member
    exact decide_eq_true (cleared parameter member)

/-- The two functions lead to pages of the panel for every text and every
origin, and `safeReturnTo` is idempotent. -/
theorem redirects_safely (platform : Platform) (value : Option (List Nat)) :
    RedirectsSafely platform value := by
  obtain ⟨segments, parameters, page, cleared, shape⟩ :=
    safeReturnTo_location platform value
  have again := safeReturnTo_of_location page platform cleared
  constructor
  · intro panel
    rw [shape]
    exact staysOnPanel_location page platform panel parameters
  · intro error panel
    rw [shape]
    exact ⟨_, withAuthError_location page platform again error,
      staysOnPanel_location page platform panel _⟩
  · rw [shape, again]

end GravitPanel.PanelAuth
