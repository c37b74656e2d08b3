import GravitPanel.Core.IsoDate
import GravitPanel.Core.JavaScript
import GravitPanel.Core.Program

/-!
# Tickets of the public portal

`completeTicket` of `public-portal.service.ts` with the tables that it uses in
`db/schema.ts`.  A time is in milliseconds, and each use of the clock has a
reading of its own.
-/

namespace GravitPanel.Portal

open Program IsoDate

/-- The payload of a ticket; `exp` is absent when it is no integer. -/
structure PortalTicket where
  uuid : String
  username : String
  discordId : String
  avatarHash : Option String
  exp : Option Int
  nonce : String
  deriving DecidableEq, Repr

/-- A row of `public_player_sessions`. -/
structure SessionRow where
  sessionHash : String
  playerUuid : String
  discordId : String
  avatarHash : Option String
  username : String
  expiresAt : String
  createdAt : String
  deriving DecidableEq, Repr

structure PublicPlayerSession where
  playerUuid : String
  discordId : String
  avatarHash : Option String
  username : String
  expiresAt : String
  deriving DecidableEq, Repr

/-- The service with its two tables; `nonces` holds nonces with their
`expires_at`. -/
structure PublicPortal where
  hmacSecret : Option String
  nonces : List (String × String)
  sessions : List SessionRow
  deriving DecidableEq, Repr

/-- What comes from `node:crypto` and `JSON`: the base64url HMAC of a secret
and a payload, the payload as an object, a random token and the SHA-256 of a
token. -/
structure PortalEnvironment where
  hmac : String → String → String
  parse : String → Option PortalTicket
  randomToken : String
  hash : String → String

/-- The readings of the clock by `verifyTicket`, `cleanup`, for the end of the
session and for `created_at`. -/
structure Readings where
  verify : Nat
  cleanup : Nat
  lifetime : Nat
  created : Nat
  deriving DecidableEq, Repr

def isHex (character : Char) : Bool :=
  character.isDigit ||
    character.toLower ∈ ['a', 'b', 'c', 'd', 'e', 'f']

/-- `/^[0-9a-f]{8}-[0-9a-f-]{27}$/i`. -/
def uuidPattern (value : String) : Bool :=
  value.toList.length = 36 && (value.toList.take 8).all isHex &&
    value.toList[8]? = some '-' &&
      (value.toList.drop 9).all fun character =>
        isHex character || character == '-'

/-- `/^[0-9]{5,30}$/`. -/
def discordIdPattern (value : String) : Bool :=
  5 ≤ value.toList.length && value.toList.length ≤ 30 &&
    value.toList.all Char.isDigit

def isWord (character : Char) : Bool :=
  character.isAlphanum || character == '_'

/-- `/^[A-Za-z0-9_]{2,16}$/`. -/
def usernamePattern (value : String) : Bool :=
  2 ≤ value.toList.length && value.toList.length ≤ 16 &&
    value.toList.all isWord

/-- `/^[A-Za-z0-9_-]{20,}$/`. -/
def noncePattern (value : String) : Bool :=
  20 ≤ value.toList.length && value.toList.all fun character =>
    isWord character || character == '-'

/-- `/^[A-Za-z0-9_]{2,128}$/`. -/
def validAvatarHash (value : String) : Bool :=
  2 ≤ value.toList.length && value.toList.length ≤ 128 &&
    value.toList.all isWord

def isSafeInteger (value : Int) : Bool :=
  -9007199254740991 ≤ value && value ≤ 9007199254740991

/-- The ticket has the fields of a ticket and has not expired.  The product
`exp * 1000` is compared as an exact number: it is one up to the last time a
clock can read. -/
def wellFormed (ticket : PortalTicket) (now : Nat) : Bool :=
  uuidPattern ticket.uuid && discordIdPattern ticket.discordId &&
    usernamePattern ticket.username && noncePattern ticket.nonce &&
      ticket.exp.any fun exp => isSafeInteger exp && (now : Int) < exp * 1000

/-- `ticket.split('.')` with exactly two nonempty parts. -/
def splitTicket (ticket : String) : Option (String × String) :=
  match (ticket.toList.splitOn '.').map String.ofList with
  | [payload, signature] =>
      if payload = "" ∨ signature = "" then none
      else some (payload, signature)
  | _ => none

def verifyTicket
    (environment : PortalEnvironment) (hmacSecret : Option String)
    (ticket : String) (now : Nat) : Except String PortalTicket :=
  match hmacSecret with
  | none => .error "Public portal HMAC secret is not configured."
  | some secret =>
      if JavaScript.length secret < 32 then
        .error "Public portal HMAC secret is not configured."
      else
        match splitTicket ticket with
        | none => .error "Invalid authorization ticket."
        | some (payload, signature) =>
            if signature ≠ environment.hmac secret payload then
              .error "Invalid authorization ticket signature."
            else
              match environment.parse payload with
              | none => .error "Invalid authorization ticket payload."
              | some parsed =>
                  if wellFormed parsed now then .ok parsed
                  else .error "Authorization ticket is invalid or expired."

/-- `toISOString` of a time. -/
def isoText (time : Nat) : Except String String :=
  match toISOString time with
  | some text => .ok text
  | none => .error "Invalid Date"

/-- `expires_at <= ?`, which compares the characters. -/
def textLE (first second : String) : Bool :=
  !decide (second.toList < first.toList)

def expiredNonces (time : String) (portal : PublicPortal) : PublicPortal :=
  { portal with
    nonces := portal.nonces.filter fun row => !textLE row.2 time
    sessions := portal.sessions.filter fun row =>
      !textLE row.expiresAt time }

def cleanup (now : Nat) : Program PublicPortal String PUnit := do
  let time ← lift (isoText now)
  update (expiredNonces time)

/-- The time in milliseconds at which a verified ticket expires. -/
def expiry (ticket : PortalTicket) : Nat :=
  ((ticket.exp.getD 0) * 1000).toNat

/-- `INSERT OR IGNORE` of a nonce, which must not be there yet. -/
def insertNonce (nonce expiresAt : String) :
    Program PublicPortal String PUnit :=
  fun portal =>
    if nonce ∈ portal.nonces.map Prod.fst then
      (.error "The authorization ticket has already been used.", portal)
    else
      (.ok ⟨⟩, { portal with nonces := portal.nonces ++ [(nonce, expiresAt)] })

def consumeNonce (ticket : PortalTicket) :
    Program PublicPortal String PUnit := do
  let expiresAt ← lift (isoText (expiry ticket))
  insertNonce ticket.nonce expiresAt

def playerSessionLifetimeMs : Nat := 7 * 24 * 60 * 60 * 1000

def insertSession (row : SessionRow) : Program PublicPortal String PUnit :=
  fun portal =>
    if row.sessionHash ∈ portal.sessions.map SessionRow.sessionHash then
      (.error ("UNIQUE constraint failed: " ++
        "public_player_sessions.session_hash"), portal)
    else
      (.ok ⟨⟩, { portal with sessions := portal.sessions ++ [row] })

def createSession
    (environment : PortalEnvironment) (readings : Readings)
    (ticket : PortalTicket) :
    Program PublicPortal String (String × PublicPlayerSession) := do
  let expiresAt ←
    lift (isoText (readings.lifetime + playerSessionLifetimeMs))
  let createdAt ← lift (isoText readings.created)
  insertSession
    { sessionHash := environment.hash environment.randomToken
      playerUuid := ticket.uuid
      discordId := ticket.discordId
      avatarHash := ticket.avatarHash.filter validAvatarHash
      username := ticket.username
      expiresAt
      createdAt }
  pure
    (environment.randomToken,
      { playerUuid := ticket.uuid
        discordId := ticket.discordId
        avatarHash := ticket.avatarHash.filter validAvatarHash
        username := ticket.username
        expiresAt })

def completeTicket
    (environment : PortalEnvironment) (readings : Readings)
    (ticket : String) :
    Program PublicPortal String (String × PublicPlayerSession) := do
  let portal ← get
  let payload ← lift (verifyTicket environment portal.hmacSecret ticket
    readings.verify)
  cleanup readings.cleanup
  consumeNonce payload
  createSession environment readings payload

end GravitPanel.Portal
