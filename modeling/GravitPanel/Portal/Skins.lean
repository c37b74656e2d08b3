import GravitPanel.Portal.Tickets

/-!
# Skins of the public portal

`session`, `setSkin` and `skinForUsername` of `public-portal.service.ts` with
the table `player_skins` of `db/schema.ts`, whose key is the player and whose
user names are unique up to the case of ASCII letters.
-/

namespace GravitPanel.Portal

open Program

/-- The player of a session; `hash` is the SHA-256 of a token. -/
def session (hash : String → String) (token : Option String) (now : Nat) :
    Program PublicPortal String (Option PublicPlayerSession) :=
  match token with
  | none => pure none
  | some text =>
      if text = "" then
        pure none
      else do
        cleanup now
        let portal ← get
        let found := portal.sessions.find? fun row =>
          row.sessionHash = hash text
        pure (found.map fun row =>
          { playerUuid := row.playerUuid
            discordId := row.discordId
            avatarHash := row.avatarHash
            username := row.username
            expiresAt := row.expiresAt })

def maxSkinBytes : Nat := 1024 * 1024

def pngSignature : List UInt8 := [137, 80, 78, 71, 13, 10, 26, 10]

/-- `getUint32` of the bytes at an offset. -/
def getUint32 (bytes : List UInt8) (offset : Nat) : Nat :=
  ((bytes.drop offset).take 4).foldl
    (fun value byte => value * 256 + byte.toNat) 0

structure Dimensions where
  width : Nat
  height : Nat
  deriving DecidableEq, Repr

def pngDimensions (bytes : List UInt8) : Except String Dimensions :=
  if bytes.length < 24 ∨ bytes.length > maxSkinBytes ∨
      bytes.take 8 ≠ pngSignature then
    .error "Skin must be a PNG file up to 1 MiB."
  else
    let width := getUint32 bytes 16
    let height := getUint32 bytes 20
    if ¬ (width = 64 ∧ height = 64 ∨ width = 128 ∧ height = 128) then
      .error "Skin must be 64x64 or 128x128 pixels."
    else
      .ok ⟨width, height⟩

/-- A row of `player_skins`. -/
structure SkinRow where
  playerUuid : String
  username : String
  image : List UInt8
  sha256 : String
  width : Nat
  height : Nat
  updatedAt : String
  deriving DecidableEq, Repr

/-- The text that `COLLATE NOCASE` compares. -/
def noCase (text : String) : List Char :=
  text.toList.map Char.toLower

/-- Another player has the user name in the table. -/
def nameHeld (playerUuid username : String) (rows : List SkinRow) : Bool :=
  rows.any fun row =>
    row.playerUuid ≠ playerUuid && noCase row.username = noCase username

/-- `INSERT` with `ON CONFLICT(player_uuid) DO UPDATE`.  The update, too, must
keep the user names apart. -/
def upsertSkin (row : SkinRow) : Program (List SkinRow) String Unit :=
  fun rows =>
    if nameHeld row.playerUuid row.username rows then
      (.error "UNIQUE constraint failed: player_skins.username", rows)
    else if rows.any fun stored => stored.playerUuid = row.playerUuid then
      (.ok (), rows.map fun stored =>
        if stored.playerUuid = row.playerUuid then row else stored)
    else
      (.ok (), rows ++ [row])

structure StoredSkin where
  width : Nat
  height : Nat
  sha256 : String
  updatedAt : String
  deriving DecidableEq, Repr

/-- `setSkin`; `sha256` is the hash of the bytes and `updatedAt` what `now()`
returns. -/
def setSkin
    (sha256 : List UInt8 → String) (player : PublicPlayerSession)
    (image : List UInt8) (updatedAt : String) :
    Program (List SkinRow) String StoredSkin := do
  let dimensions ← lift (pngDimensions image)
  upsertSkin
    { playerUuid := player.playerUuid
      username := player.username
      image
      sha256 := sha256 image
      width := dimensions.width
      height := dimensions.height
      updatedAt }
  pure
    { width := dimensions.width
      height := dimensions.height
      sha256 := sha256 image
      updatedAt }

structure ServedSkin where
  image : List UInt8
  sha256 : String
  updatedAt : String
  deriving DecidableEq, Repr

def skinForUsername (username : String) (rows : List SkinRow) :
    Option ServedSkin :=
  (rows.find? fun row => noCase row.username = noCase username).map fun row =>
    ⟨row.image, row.sha256, row.updatedAt⟩

/-- The service with the players whom `session` has returned. -/
structure SkinState where
  portal : PublicPortal
  skins : List SkinRow
  players : List PublicPlayerSession
  deriving DecidableEq, Repr

inductive SkinEvent where
  | completeTicket
      (environment : PortalEnvironment) (readings : Readings) (ticket : String)
  | session (hash : String → String) (token : Option String) (now : Nat)
  | setSkin
      (player : PublicPlayerSession) (image : List UInt8) (updatedAt : String)

/-- A call of `setSkin`, and what `skinForUsername` returns right after it. -/
structure SkinUpload where
  player : PublicPlayerSession
  image : List UInt8
  result : Except String StoredSkin
  lookup : String → Option ServedSkin

/-- One call, whether it completes or throws.  A player who sets a skin is one
whom `session` has returned. -/
def skinStep
    (sha256 : List UInt8 → String) (state : SkinState) (event : SkinEvent) :
    Option (SkinState × List SkinUpload) :=
  match event with
  | .completeTicket environment readings ticket =>
      let after := (completeTicket environment readings ticket state.portal).2
      some ({ state with portal := after }, [])
  | .session hash token now =>
      match session hash token now state.portal with
      | (.ok (some player), after) =>
          some
            ({ state with
                portal := after, players := state.players ++ [player] },
              [])
      | (_, after) => some ({ state with portal := after }, [])
  | .setSkin player image updatedAt =>
      if player ∈ state.players then
        let (result, after) := setSkin sha256 player image updatedAt state.skins
        some
          ({ state with skins := after },
            [⟨player, image, result, fun name => skinForUsername name after⟩])
      else
        none

end GravitPanel.Portal
