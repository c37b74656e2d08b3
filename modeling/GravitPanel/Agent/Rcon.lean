import GravitPanel.Agent.CommandLoop
import GravitPanel.Core.Utf8

/-!
# RCON packets and captured output

`agent/rcon.go` and the `limitedBuffer` of `agent/system.go`.  A connection is
what one call of `executeRCON` sees of it: the bytes that arrive, how reading
ends after them, and the errors of its writes and deadlines.
-/

namespace GravitPanel.Agent

def rconResponseValue : Int32 := 0

def rconCommand : Int32 := 2

def rconAuth : Int32 := 3

def maxRCONPacket : Nat := 4 * 2 ^ 20

def maxOutputBytes : Nat := 64 * 1024

structure RCONPacket where
  id : Int32
  type : Int32
  payload : List UInt8
  deriving DecidableEq, Repr

/-- `binary.LittleEndian.PutUint32`. -/
def putUint32 (value : UInt32) : List UInt8 :=
  [value.toUInt8, (value >>> 8).toUInt8, (value >>> 16).toUInt8,
    (value >>> 24).toUInt8]

/-- `binary.LittleEndian.Uint32`. -/
def uint32 : List UInt8 → UInt32
  | [first, second, third, fourth] =>
      first.toUInt32 ||| second.toUInt32 <<< 8 |||
        third.toUInt32 <<< 16 ||| fourth.toUInt32 <<< 24
  | _ => 0

def encodeRCONPacket (packet : RCONPacket) : Except String (List UInt8) :=
  if 0 ∈ packet.payload then
    .error "RCON payload contains NUL"
  else
    let length := 4 + 4 + packet.payload.length + 2
    if maxRCONPacket < length then
      .error "RCON packet is too large"
    else
      .ok (putUint32 (UInt32.ofNat length) ++
        putUint32 packet.id.toUInt32 ++ putUint32 packet.type.toUInt32 ++
          packet.payload ++ [0, 0])

/-- How reading from a connection fails. -/
inductive ReadError where
  | timeout (text : String)
  | eof
  | unexpectedEOF
  | other (text : String)
  deriving DecidableEq, Repr

def ReadError.text : ReadError → String
  | .timeout text => text
  | .eof => "EOF"
  | .unexpectedEOF => "unexpected EOF"
  | .other text => text

/-- `io.ReadFull` on the bytes that still arrive before reading fails. -/
def readFull (count : Nat) (bytes : List UInt8) (ending : ReadError) :
    Except ReadError (List UInt8 × List UInt8) :=
  if count ≤ bytes.length then
    .ok (bytes.take count, bytes.drop count)
  else if ending = .eof ∧ bytes ≠ [] then
    .error .unexpectedEOF
  else
    .error ending

def decodeRCONPacket (bytes : List UInt8) (ending : ReadError) :
    Except ReadError (RCONPacket × List UInt8) :=
  match readFull 4 bytes ending with
  | .error error => .error error
  | .ok (header, afterHeader) =>
      let length := (uint32 header).toInt32.toInt
      if length < 10 ∨ (maxRCONPacket : Int) < length then
        .error (.other
          ("invalid RCON packet length " ++ toString length))
      else
        match readFull length.toNat afterHeader ending with
        | .error error => .error error
        | .ok (body, rest) =>
            if body.drop (body.length - 2) ≠ [0, 0] then
              .error (.other "invalid RCON packet terminator")
            else
              .ok (⟨(uint32 (body.take 4)).toInt32,
                (uint32 ((body.drop 4).take 4)).toInt32,
                (body.take (body.length - 2)).drop 8⟩, rest)

theorem readFull_shorter
    {count : Nat} {bytes read rest : List UInt8} {ending : ReadError}
    (done : readFull count bytes ending = .ok (read, rest)) :
    rest.length = bytes.length - count ∧ count ≤ bytes.length := by
  unfold readFull at done
  split at done
  next enough =>
    cases done
    exact ⟨List.length_drop, enough⟩
  next =>
    split at done <;> cases done

theorem decodeRCONPacket_shorter
    {bytes rest : List UInt8} {ending : ReadError} {packet : RCONPacket}
    (done : decodeRCONPacket bytes ending = .ok (packet, rest)) :
    rest.length < bytes.length := by
  unfold decodeRCONPacket at done
  split at done
  · cases done
  next header afterHeader headerRead =>
    have headerLength := readFull_shorter headerRead
    simp only at done
    split at done
    · cases done
    · split at done
      · cases done
      next body left bodyRead =>
        have bodyLength := readFull_shorter bodyRead
        split at done
        · cases done
        · cases done
          omega

def truncationMarker : String := "\n[output truncated]"

/-- Bytes kept up to a limit.  A buffer that dropped bytes is full; nothing fits
below a negative limit. -/
structure LimitedBuffer (limit : Int) where
  kept : List UInt8
  truncated : Bool
  kept_le : kept.length ≤ limit.toNat
  full : truncated = true → kept.length = limit.toNat

namespace LimitedBuffer

variable {limit : Int}

def empty : LimitedBuffer limit where
  kept := []
  truncated := false
  kept_le := Nat.zero_le limit.toNat
  full := fun impossible => Bool.noConfusion impossible

/-- The bytes that still fit. -/
def remaining (buffer : LimitedBuffer limit) : Int :=
  limit - buffer.kept.length

/-- Keep what fits of the data. -/
def write (buffer : LimitedBuffer limit) (data : List UInt8) :
    LimitedBuffer limit :=
  if room : buffer.remaining ≤ 0 then
    { buffer with
      truncated := true
      full := fun _ => by
        have bound := buffer.kept_le
        rw [remaining] at room
        omega }
  else if cut : buffer.remaining < data.length then
    { kept := buffer.kept ++ data.take buffer.remaining.toNat
      truncated := true
      kept_le := by
        rw [remaining] at room cut ⊢
        rw [List.length_append, List.length_take]
        omega
      full := fun _ => by
        rw [remaining] at room cut ⊢
        rw [List.length_append, List.length_take]
        omega }
  else
    { kept := buffer.kept ++ data
      truncated := buffer.truncated
      kept_le := by
        rw [remaining] at room cut
        rw [List.length_append]
        omega
      full := fun truncated => by
        have full := buffer.full truncated
        rw [remaining] at room
        omega }

theorem write_full
    {buffer : LimitedBuffer limit} (full : buffer.remaining ≤ 0)
    (data : List UInt8) :
    (buffer.write data).kept = buffer.kept ∧
      (buffer.write data).truncated = true := by
  rw [write, dif_pos full]
  exact ⟨rfl, rfl⟩

theorem write_cut
    {buffer : LimitedBuffer limit} {data : List UInt8}
    (room : 0 < buffer.remaining) (cut : buffer.remaining < data.length) :
    (buffer.write data).kept =
        buffer.kept ++ data.take buffer.remaining.toNat ∧
      (buffer.write data).truncated = true := by
  rw [write, dif_neg (Int.not_le.mpr room), dif_pos cut]
  exact ⟨rfl, rfl⟩

theorem write_fits
    {buffer : LimitedBuffer limit} {data : List UInt8}
    (room : 0 < buffer.remaining) (fits : data.length ≤ buffer.remaining) :
    (buffer.write data).kept = buffer.kept ++ data ∧
      (buffer.write data).truncated = buffer.truncated := by
  rw [write, dif_neg (Int.not_le.mpr room), dif_neg (Int.not_lt.mpr fits)]
  exact ⟨rfl, rfl⟩

/-- The `String` of the buffer, as bytes. -/
def string (buffer : LimitedBuffer limit) : List UInt8 :=
  if buffer.truncated then
    buffer.kept ++ Utf8.encode truncationMarker.toList
  else
    buffer.kept

end LimitedBuffer

/-- The output of a program that writes these chunks. -/
def cappedCombinedOutput (chunks : List (List UInt8)) (limit : Int) :
    List UInt8 :=
  (chunks.foldl LimitedBuffer.write
    (LimitedBuffer.empty : LimitedBuffer limit)).string

/-- A connection as one call of `executeRCON` meets it.  `writeErrors` and
`quietDeadlineErrors` are the errors of its writes and of its later
deadlines. -/
structure RCONConnection where
  deadlineError : Option String
  writeErrors : Nat → Option String
  quietDeadlineErrors : Nat → Option String
  received : List UInt8
  ending : ReadError

def writeRCONPacket
    (connection : RCONConnection) (write : Nat) (packet : RCONPacket) :
    Except String Unit :=
  match encodeRCONPacket packet with
  | .error error => .error error
  | .ok _ =>
      match connection.writeErrors write with
      | some error => .error error
      | none => .ok ()

/-- Read up to two packets until one accepts the password. -/
def authenticate (ending : ReadError) :
    Nat → List UInt8 → Except String (List UInt8)
  | 0, _ => .error "invalid RCON authentication response"
  | attempts + 1, bytes =>
      match decodeRCONPacket bytes ending with
      | .error error =>
          .error ("read RCON authentication: " ++ error.text)
      | .ok (auth, rest) =>
          if auth.id = -1 then
            .error "RCON authentication failed"
          else if auth.id = 1 ∧ auth.type = rconCommand then
            .ok rest
          else
            authenticate ending attempts rest

def ReadError.endsResponse : ReadError → Bool
  | .timeout _ => true
  | .eof => true
  | .unexpectedEOF => true
  | .other _ => false

/-- The loop over the response packets. -/
def readResponses {limit : Int}
    (connection : RCONConnection) (bytes : List UInt8)
    (output : LimitedBuffer limit) (received : Bool) (responses : Nat) :
    Except String (LimitedBuffer limit) :=
  match _decoded : decodeRCONPacket bytes connection.ending with
  | .error error =>
      if received ∧ error.endsResponse then
        .ok output
      else
        .error ("read RCON response: " ++ error.text)
  | .ok (packet, rest) =>
      if packet.id ≠ 2 ∨ packet.type ≠ rconResponseValue then
        readResponses connection rest output received responses
      else if output.remaining ≤ 0 then
        -- a full buffer does not extend the quiet deadline
        readResponses connection rest (output.write packet.payload) true
          responses
      else
        match connection.quietDeadlineErrors responses with
        | some error => .error ("set RCON quiet deadline: " ++ error)
        | none =>
            readResponses connection rest (output.write packet.payload) true
              (responses + 1)
termination_by bytes.length
decreasing_by
  all_goals exact decodeRCONPacket_shorter _decoded

def executeRCON
    (dialed : Except String RCONConnection) (password command : String)
    (outputLimit : Int) : Except String (List UInt8) :=
  match dialed with
  | .error error => .error ("connect RCON: " ++ error)
  | .ok connection =>
      match connection.deadlineError with
      | some error => .error error
      | none =>
          match writeRCONPacket connection 0
              ⟨1, rconAuth, Utf8.encode password.toList⟩ with
          | .error error =>
              .error ("send RCON authentication: " ++ error)
          | .ok _ =>
              match authenticate connection.ending 2
                  connection.received with
              | .error error => .error error
              | .ok rest =>
                  match writeRCONPacket connection 1
                      ⟨2, rconCommand, Utf8.encode command.toList⟩ with
                  | .error error =>
                      .error ("send RCON command: " ++ error)
                  | .ok _ =>
                      match readResponses connection rest
                          (LimitedBuffer.empty :
                            LimitedBuffer outputLimit) false 0 with
                      | .error error => .error error
                      | .ok output => .ok output.string

theorem executeRCON_limited
    {dialed : Except String RCONConnection} {password command : String}
    {outputLimit : Int} {output : List UInt8}
    (executed : executeRCON dialed password command outputLimit =
      .ok output) :
    ∃ buffer : LimitedBuffer outputLimit, output = buffer.string := by
  unfold executeRCON at executed
  repeat' split at executed
  all_goals cases executed
  exact ⟨_, rfl⟩

end GravitPanel.Agent
