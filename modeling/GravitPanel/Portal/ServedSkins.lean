import GravitPanel.Portal.SingleUse
import GravitPanel.Portal.Skins

/-!
# Skins under the names of their players

A valid skin is stored and served under its player's name exactly if no other
player has that name in the table: the upsert resolves a conflict of players
but not one of names.
-/

namespace GravitPanel.Portal

open GravitPanel.Execution Program

/-- A valid image is stored, and its player's name in any letter case then has
that image. -/
def SkinUpload.Served (upload : SkinUpload) : Prop :=
  (pngDimensions upload.image).isOk = true →
    (∃ stored, upload.result = .ok stored) ∧
      ∀ name, noCase name = noCase upload.player.username →
        (upload.lookup name).map ServedSkin.image = some upload.image

/-- A player who sets a valid skin has a name that no other player has in the
table. -/
def setsFreeName (state : SkinState) (event : SkinEvent) : Bool :=
  match event with
  | .setSkin player image _ =>
      !(pngDimensions image).isOk ||
        !nameHeld player.playerUuid player.username state.skins
  | _ => true

theorem nameHeld_eq_false_iff {playerUuid username : String}
    {rows : List SkinRow} :
    nameHeld playerUuid username rows = false ↔
      ∀ row ∈ rows, noCase row.username = noCase username →
        row.playerUuid = playerUuid := by
  rw [nameHeld, List.any_eq_false]
  refine forall₂_congr fun row _ => ?_
  rw [Bool.and_eq_true, decide_eq_true_eq, decide_eq_true_eq]
  constructor
  · intro apart same
    by_contra other
    exact apart ⟨other, same⟩
  · intro own held
    exact held.1 (own held.2)

theorem upsertSkin_ok {row : SkinRow} {rows : List SkinRow}
    (free : nameHeld row.playerUuid row.username rows = false) :
    ∃ after, upsertSkin row rows = (.ok (), after) ∧ row ∈ after ∧
      ∀ stored ∈ after,
        stored = row ∨ stored ∈ rows ∧ stored.playerUuid ≠ row.playerUuid := by
  rw [upsertSkin, if_neg (ne_true_of_eq_false free)]
  by_cases known :
      rows.any (fun stored => stored.playerUuid = row.playerUuid) = true
  · rw [if_pos known]
    refine ⟨_, rfl, ?_, ?_⟩
    · obtain ⟨stored, member, same⟩ := List.any_eq_true.mp known
      exact List.mem_map.mpr
        ⟨stored, member, if_pos (of_decide_eq_true same)⟩
    · intro stored member
      obtain ⟨old, present, change⟩ := List.mem_map.mp member
      by_cases same : old.playerUuid = row.playerUuid
      · rw [if_pos same] at change
        exact Or.inl change.symm
      · rw [if_neg same] at change
        rw [← change]
        exact Or.inr ⟨present, same⟩
  · rw [if_neg known]
    refine ⟨_, rfl, List.mem_append_right _ List.mem_cons_self, ?_⟩
    intro stored member
    rcases List.mem_append.mp member with old | new
    · refine Or.inr ⟨old, fun same => known ?_⟩
      exact List.any_eq_true.mpr ⟨stored, old, decide_eq_true same⟩
    · exact Or.inl (List.mem_singleton.mp new)

theorem skinForUsername_of_unique {row : SkinRow} {rows : List SkinRow}
    {name : String} (member : row ∈ rows)
    (named : noCase name = noCase row.username)
    (unique : ∀ stored ∈ rows, noCase stored.username = noCase row.username →
      stored = row) :
    skinForUsername name rows =
      some ⟨row.image, row.sha256, row.updatedAt⟩ := by
  have found :
      rows.find? (fun stored => noCase stored.username = noCase name) =
        some row := by
    cases search :
        rows.find? (fun stored => noCase stored.username = noCase name) with
    | none =>
        have missing := List.find?_eq_none.mp search row member
        exact absurd (decide_eq_true named.symm) missing
    | some stored =>
        have same : noCase stored.username = noCase name := by
          simpa using List.find?_some search
        rw [unique stored (List.mem_of_find?_eq_some search)
          (same.trans named)]
  rw [skinForUsername, found]
  rfl

section Uploads

variable {sha256 : List UInt8 → String} {player : PublicPlayerSession}
variable {image : List UInt8} {updatedAt : String} {rows : List SkinRow}

def skinRow (sha256 : List UInt8 → String) (player : PublicPlayerSession)
    (image : List UInt8) (updatedAt : String) (dimensions : Dimensions) :
    SkinRow where
  playerUuid := player.playerUuid
  username := player.username
  image
  sha256 := sha256 image
  width := dimensions.width
  height := dimensions.height
  updatedAt

theorem setSkin_of_held {dimensions : Dimensions}
    (valid : pngDimensions image = .ok dimensions)
    (held : nameHeld player.playerUuid player.username rows = true) :
    setSkin sha256 player image updatedAt rows =
      (.error "UNIQUE constraint failed: player_skins.username", rows) := by
  rw [setSkin, lift_bind, valid]
  apply bind_of_error
  rw [upsertSkin, if_pos held]

theorem setSkin_of_free
    (sha256 : List UInt8 → String) (updatedAt : String)
    {dimensions : Dimensions}
    (valid : pngDimensions image = .ok dimensions)
    (free : nameHeld player.playerUuid player.username rows = false) :
    ∃ stored after,
      setSkin sha256 player image updatedAt rows = (.ok stored, after) ∧
        skinRow sha256 player image updatedAt dimensions ∈ after ∧
          ∀ row ∈ after,
            row = skinRow sha256 player image updatedAt dimensions ∨
              row ∈ rows ∧ row.playerUuid ≠ player.playerUuid := by
  have freeRow :
      nameHeld (skinRow sha256 player image updatedAt dimensions).playerUuid
        (skinRow sha256 player image updatedAt dimensions).username rows =
          false := free
  obtain ⟨after, inserted, present, others⟩ := upsertSkin_ok freeRow
  refine ⟨⟨dimensions.width, dimensions.height, sha256 image, updatedAt⟩,
    after, ?_, present, others⟩
  rw [setSkin, lift_bind, valid]
  exact bind_of_ok inserted _

theorem served_iff {state after : SkinState} {uploads : List SkinUpload}
    (stepped :
      skinStep sha256 state (.setSkin player image updatedAt) =
        some (after, uploads)) :
    (∀ upload ∈ uploads, upload.Served) ↔
      setsFreeName state (.setSkin player image updatedAt) = true := by
  rw [skinStep] at stepped
  by_cases known : player ∈ state.players
  · rw [if_pos known, Option.some.injEq] at stepped
    cases stepped
    rw [List.forall_mem_singleton, SkinUpload.Served, setsFreeName]
    cases valid : pngDimensions image with
    | error problem =>
        refine iff_of_true (fun absent => ?_) rfl
        cases absent
    | ok dimensions =>
        cases held :
            nameHeld player.playerUuid player.username state.skins with
        | true =>
            rw [setSkin_of_held valid held]
            refine iff_of_false (fun served => ?_) Bool.false_ne_true
            obtain ⟨⟨stored, failed⟩, _⟩ := served rfl
            cases failed
        | false =>
            refine iff_of_true (fun _ => ?_) rfl
            obtain ⟨stored, reached, set, present, others⟩ :=
              setSkin_of_free sha256 updatedAt valid held
            rw [set]
            refine ⟨⟨stored, rfl⟩, fun name same => ?_⟩
            have found := skinForUsername_of_unique present same
              fun row member named => by
                rcases others row member with new | ⟨old, apart⟩
                · exact new
                · exact absurd (nameHeld_eq_false_iff.mp held row old named)
                    apart
            exact congrArg (Option.map ServedSkin.image) found
  · rw [if_neg known] at stepped
    cases stepped

end Uploads

/-- In a run of logins and uploads, each valid skin is served under its
player's name exactly if each of these uploads finds the name free. -/
theorem own_skins_served_iff (sha256 : List UInt8 → String)
    (portal : PublicPortal) (events : List SkinEvent) (final : SkinState)
    (uploads : List SkinUpload)
    (run :
      execute (skinStep sha256) ⟨portal, [], []⟩ events =
        some (final, uploads)) :
    (∀ upload ∈ uploads, upload.Served) ↔
      Meets (skinStep sha256)
        (fun state event => setsFreeName state event = true)
        ⟨portal, [], []⟩ events := by
  refine outputs_iff_meets ?_ run
  intro state event next now stepped
  cases event with
  | completeTicket environment readings ticket =>
      cases stepped
      exact iff_of_true (fun _ absent => absurd absent List.not_mem_nil) rfl
  | session hash token time =>
      have quiet : now = [] := by
        rw [skinStep] at stepped
        split at stepped
        · cases stepped
          rfl
        · cases stepped
          rfl
      rw [quiet]
      exact iff_of_true (fun _ absent => absurd absent List.not_mem_nil) rfl
  | setSkin player image updatedAt => exact served_iff stepped

/-- A login with a ticket whose session has the given token. -/
def loginAs (uuid discordId username nonce token : String) :
    List SkinEvent :=
  [.completeTicket
      { exampleEnvironment 0 token with
        parse := fun _ =>
          some ⟨uuid, username, discordId, none, some 1700000000, nonce⟩ }
      ⟨1699999000000, 1699999000000, 1699999000000, 1699999000000⟩
      exampleTicket,
    .session (exampleEnvironment 0 token).hash (some token) 1699999000000]

/-- The header of an image of 64 by 64 pixels. -/
def smallSkin : List UInt8 :=
  pngSignature ++
    [0, 0, 0, 13, 73, 72, 68, 82, 0, 0, 0, 64, 0, 0, 0, 64]

def smallSkinHash (_ : List UInt8) : String :=
  "7843eba05d86b934a4da1083207247512876d7c7c0a7b22ffc586957bca01b5d"

def upload (uuid discordId username : String) : SkinEvent :=
  .setSkin ⟨uuid, discordId, none, username, "2023-11-21T21:56:40.000Z"⟩
    smallSkin "2023-11-14T21:56:40.000Z"

def firstUuid : String := "5f6b7044-655b-30ef-8672-7ce4b673aed0"

def secondUuid : String := "4f75547a-c727-3e17-bc7f-413eeb53136c"

def firstPlayer (username nonce token : String) : List SkinEvent :=
  loginAs firstUuid "80351110224678912" username nonce token ++
    [upload firstUuid "80351110224678912" username]

def secondPlayer (username nonce token : String) : List SkinEvent :=
  loginAs secondUuid "53908232506183680" username nonce token ++
    [upload secondUuid "53908232506183680" username]

/-- The first player sets a skin under another name before the second one uses
the old name. -/
def freedName : List SkinEvent :=
  firstPlayer "Nelly" "nonce-nonce-nonce-one" "one" ++
    (firstPlayer "Nell" "nonce-nonce-nonce-two" "two" ++
      secondPlayer "nelly" "nonce-nonce-nonce-three" "three")

theorem own_skins_served_freedName :
    ∃ final uploads,
      execute (skinStep smallSkinHash) ⟨examplePortal, [], []⟩ freedName =
          some (final, uploads) ∧
        uploads.length = 3 ∧ ∀ upload ∈ uploads, upload.Served := by
  have ran :
      (execute (skinStep smallSkinHash) ⟨examplePortal, [], []⟩
          freedName).map (fun result => result.2.length) = some 3 ∧
        Meets (skinStep smallSkinHash)
          (fun state event => setsFreeName state event = true)
          ⟨examplePortal, [], []⟩ freedName := by
    decide +kernel
  obtain ⟨⟨final, uploads⟩, run, count⟩ := Option.map_eq_some_iff.mp ran.1
  exact ⟨final, uploads, run, count,
    (own_skins_served_iff smallSkinHash examplePortal freedName final uploads
      run).mpr ran.2⟩

/-- The first player was renamed, and the second one uses the old name. -/
def heldName : List SkinEvent :=
  firstPlayer "Nelly" "nonce-nonce-nonce-one" "one" ++
    secondPlayer "nelly" "nonce-nonce-nonce-three" "three"

/-- The second player cannot set a skin. -/
theorem skin_of_reused_name_refused :
    ∃ final uploads,
      execute (skinStep smallSkinHash) ⟨examplePortal, [], []⟩ heldName =
          some (final, uploads) ∧
        ¬ ∀ upload ∈ uploads, upload.Served := by
  have ran :
      (execute (skinStep smallSkinHash) ⟨examplePortal, [], []⟩
          heldName).map (fun result =>
            result.2.map fun upload => (upload.image, upload.result.isOk)) =
          some [(smallSkin, true), (smallSkin, false)] := by
    decide +kernel
  obtain ⟨⟨final, uploads⟩, run, results⟩ := Option.map_eq_some_iff.mp ran
  refine ⟨final, uploads, run, fun served => ?_⟩
  have refused : (smallSkin, false) ∈
      uploads.map fun upload => (upload.image, upload.result.isOk) := by
    simp only at results
    rw [results]
    exact List.mem_cons_of_mem _ List.mem_cons_self
  obtain ⟨upload, member, same⟩ := List.mem_map.mp refused
  have image : upload.image = smallSkin := congrArg Prod.fst same
  have failed : upload.result.isOk = false := congrArg Prod.snd same
  have valid : (pngDimensions upload.image).isOk = true := by
    rw [image]
    decide
  obtain ⟨⟨stored, succeeded⟩, _⟩ := served upload member valid
  rw [succeeded] at failed
  cases failed

end GravitPanel.Portal
