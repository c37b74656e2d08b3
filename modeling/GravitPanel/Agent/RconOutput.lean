import GravitPanel.Agent.RconCodec
import Mathlib.Data.List.Induction

/-!
# What the captured output keeps

The marker follows the first `outputLimit` bytes exactly when bytes were
dropped, except after an empty write to a buffer that is just full.
-/

namespace GravitPanel.Agent

def truncationBytes : List UInt8 :=
  Utf8.encode truncationMarker.toList

/-- The first `limit` bytes, and the marker if there were more. -/
def captured (limit : Int) (chunks : List (List UInt8)) : List UInt8 :=
  chunks.flatten.take limit.toNat ++
    if limit < chunks.flatten.length then truncationBytes else []

/-- The chunks fill the buffer exactly, and an empty chunk comes last. -/
def EndsEmptyWhenFull (limit : Int) (chunks : List (List UInt8)) : Prop :=
  limit = chunks.flatten.length ∧ chunks.getLast? = some []

instance (limit : Int) (chunks : List (List UInt8)) :
    Decidable (EndsEmptyWhenFull limit chunks) :=
  inferInstanceAs (Decidable (_ ∧ _))

def LimitedBuffer.writeAll (limit : Int) (chunks : List (List UInt8)) :
    LimitedBuffer limit :=
  chunks.foldl LimitedBuffer.write LimitedBuffer.empty

theorem LimitedBuffer.writeAll_concat
    (limit : Int) (chunks : List (List UInt8)) (chunk : List UInt8) :
    LimitedBuffer.writeAll limit (chunks ++ [chunk]) =
      (LimitedBuffer.writeAll limit chunks).write chunk := by
  rw [writeAll, List.foldl_append]
  rfl

theorem LimitedBuffer.kept_writeAll
    (limit : Int) (chunks : List (List UInt8)) :
    (LimitedBuffer.writeAll limit chunks).kept =
      chunks.flatten.take limit.toNat := by
  induction chunks using List.reverseRecOn with
  | nil => exact List.take_nil.symm
  | append_singleton chunks chunk ih =>
      rw [writeAll_concat, List.flatten_append, List.flatten_singleton]
      have kept : (writeAll limit chunks).kept.length =
          min limit.toNat chunks.flatten.length := by
        rw [ih, List.length_take]
      have room : (writeAll limit chunks).remaining =
          limit - (writeAll limit chunks).kept.length := rfl
      by_cases full : (writeAll limit chunks).remaining ≤ 0
      · rw [(write_full full chunk).1, ih,
          List.take_append_of_le_length (by omega)]
      · have all : chunks.flatten.take limit.toNat = chunks.flatten :=
          List.take_of_length_le (by omega)
        rw [all] at ih
        have rest : (writeAll limit chunks).remaining.toNat =
            limit.toNat - chunks.flatten.length := by
          omega
        by_cases cut : (writeAll limit chunks).remaining < chunk.length
        · rw [(write_cut (by omega) cut).1, ih,
            List.take_append, all, rest]
        · rw [(write_fits (by omega) (by omega)).1, ih,
            List.take_of_length_le]
          rw [List.length_append]
          omega

/-- The buffer is marked when bytes were dropped, and also when an empty chunk
came last to a full buffer. -/
theorem LimitedBuffer.truncated_writeAll_iff
    (limit : Int) (chunks : List (List UInt8)) :
    (LimitedBuffer.writeAll limit chunks).truncated = true ↔
      chunks ≠ [] ∧ limit < chunks.flatten.length ∨
        EndsEmptyWhenFull limit chunks := by
  induction chunks using List.reverseRecOn with
  | nil =>
      constructor
      · intro impossible
        cases impossible
      · rintro (⟨nonempty, -⟩ | ⟨-, impossible⟩)
        · exact absurd rfl nonempty
        · cases impossible
  | append_singleton chunks chunk ih =>
      have kept : (writeAll limit chunks).kept.length =
          min limit.toNat chunks.flatten.length := by
        rw [kept_writeAll, List.length_take]
      have room : (writeAll limit chunks).remaining =
          limit - (writeAll limit chunks).kept.length := rfl
      have total : (chunks ++ [chunk]).flatten.length =
          chunks.flatten.length + chunk.length := by
        rw [List.flatten_append, List.flatten_singleton,
          List.length_append]
      have last : (chunks ++ [chunk]).getLast? = some [] ↔
          chunk.length = 0 := by
        rw [List.getLast?_concat, Option.some.injEq,
          List.length_eq_zero_iff]
      have nonempty : chunks ++ [chunk] ≠ [] := by simp
      rw [writeAll_concat, EndsEmptyWhenFull, total, last]
      by_cases full : (writeAll limit chunks).remaining ≤ 0
      · have marked := (write_full full chunk).2
        constructor
        · intro _
          by_cases empty : chunk.length = 0
          · by_cases exact : limit =
                ((chunks.flatten.length + chunk.length : Nat) : Int)
            · exact Or.inr ⟨exact, empty⟩
            · exact Or.inl ⟨nonempty, by omega⟩
          · exact Or.inl ⟨nonempty, by omega⟩
        · intro _
          exact marked
      · have unmarked : ¬ (writeAll limit chunks).truncated = true := by
          rw [ih, EndsEmptyWhenFull]
          omega
        by_cases cut : (writeAll limit chunks).remaining < chunk.length
        · constructor
          · intro _
            exact Or.inl ⟨nonempty, by omega⟩
          · intro _
            exact (write_cut (by omega) cut).2
        · rw [(write_fits (by omega) (by omega)).2]
          constructor
          · intro marked
            exact absurd marked unmarked
          · omega

theorem LimitedBuffer.string_writeAll
    (limit : Int) (chunks : List (List UInt8)) :
    (LimitedBuffer.writeAll limit chunks).string =
      chunks.flatten.take limit.toNat ++
        if (LimitedBuffer.writeAll limit chunks).truncated then truncationBytes
        else [] := by
  rw [string, ← kept_writeAll]
  split
  · rfl
  · exact (List.append_nil _).symm

/-- The output is the captured one unless an empty chunk comes last to a full
buffer, or nothing at all is written below a negative limit. -/
theorem LimitedBuffer.string_eq_captured_iff
    (limit : Int) (chunks : List (List UInt8)) :
    (LimitedBuffer.writeAll limit chunks).string = captured limit chunks ↔
      ¬ EndsEmptyWhenFull limit chunks ∧ (limit < 0 → chunks ≠ []) := by
  have marked := truncated_writeAll_iff limit chunks
  have nonempty : truncationBytes ≠ [] := by decide
  have empty : chunks = [] → chunks.flatten.length = 0 := by
    intro none
    rw [none]
    rfl
  rw [string_writeAll, captured, List.append_cancel_left_eq]
  by_cases truncated : (writeAll limit chunks).truncated = true
  · rw [if_pos truncated]
    by_cases longer : limit < chunks.flatten.length
    · rw [if_pos longer]
      have dropped := marked.mp truncated
      unfold EndsEmptyWhenFull at dropped ⊢
      grind
    · rw [if_neg longer]
      unfold EndsEmptyWhenFull at marked ⊢
      grind
  · rw [if_neg truncated]
    unfold EndsEmptyWhenFull at marked ⊢
    by_cases longer : limit < chunks.flatten.length
    · rw [if_pos longer]
      grind
    · rw [if_neg longer]
      grind

def accepting (packet : RCONPacket) : Bool :=
  packet.id = 1 ∧ packet.type = rconCommand

def responding (packet : RCONPacket) : Bool :=
  packet.id = 2 ∧ packet.type = rconResponseValue

def RCONConnection.packets (connection : RCONConnection) :
    List RCONPacket :=
  (decodeRCONPackets connection.received connection.ending).1

/-- The payloads of these packets that have id 2 and type 0. -/
def payloads (packets : List RCONPacket) : List (List UInt8) :=
  (packets.filter responding).map RCONPacket.payload

/-- The payloads with id 2 and type 0 that follow the accepting packet. -/
def RCONConnection.responses (connection : RCONConnection) :
    List (List UInt8) :=
  payloads (connection.packets.dropWhile fun packet =>
    !accepting packet).tail

/-- One of the first two packets accepts the password, and no packet before it
has the id -1. -/
def AcceptedWithinTwo (packets : List RCONPacket) : Prop :=
  ∃ before accepted rest,
    packets = before ++ accepted :: rest ∧
      before.length ≤ 1 ∧ accepting accepted = true ∧
        ∀ packet ∈ before, packet.id ≠ -1

theorem authenticate_ok
    {attempts : Nat} {bytes rest : List UInt8} {ending : ReadError}
    (authenticated : authenticate ending attempts bytes = .ok rest) :
    ∃ before accepted,
      (decodeRCONPackets bytes ending).1 =
          before ++ accepted :: (decodeRCONPackets rest ending).1 ∧
        before.length < attempts ∧ accepting accepted = true ∧
          ∀ packet ∈ before,
            packet.id ≠ -1 ∧ accepting packet = false := by
  induction attempts generalizing bytes with
  | zero => cases authenticated
  | succ attempts ih =>
      rw [authenticate] at authenticated
      split at authenticated
      · cases authenticated
      next first left decoded =>
        rw [decodeRCONPackets_ok decoded]
        split at authenticated
        · cases authenticated
        next notRefused =>
          split at authenticated
          next accepts =>
            cases authenticated
            exact ⟨[], first, rfl, Nat.succ_pos attempts,
              decide_eq_true accepts, by simp⟩
          next foreign =>
            obtain ⟨before, accepted, packets, short, accepts, others⟩ :=
              ih authenticated
            refine ⟨first :: before, accepted, ?_, ?_, accepts, ?_⟩
            · exact congrArg (first :: ·) packets
            · exact Nat.succ_lt_succ short
            · intro packet member
              cases List.mem_cons.mp member with
              | inl same =>
                  rw [same]
                  exact ⟨notRefused, decide_eq_false foreign⟩
              | inr later => exact others packet later

theorem tail_dropWhile_accepting
    {before rest : List RCONPacket} {accepted : RCONPacket}
    (accepts : accepting accepted = true)
    (others : ∀ packet ∈ before,
      packet.id ≠ -1 ∧ accepting packet = false) :
    ((before ++ accepted :: rest).dropWhile fun packet =>
      !accepting packet).tail = rest := by
  rw [List.dropWhile_append_of_pos, List.dropWhile_cons_of_neg]
  · rfl
  · rw [accepts]
    decide
  · intro packet member
    rw [(others packet member).2]
    rfl

theorem payloads_cons
    (packet : RCONPacket) (packets : List RCONPacket) :
    payloads (packet :: packets) =
      if responding packet then packet.payload :: payloads packets
      else payloads packets := by
  rw [payloads, List.filter_cons]
  split <;> rfl

theorem readResponses_ok
    {limit : Int} {connection : RCONConnection} {bytes : List UInt8}
    {output final : LimitedBuffer limit} {received : Bool}
    {responses : Nat}
    (done : readResponses connection bytes output received responses =
      .ok final) :
    final = (payloads (decodeRCONPackets bytes connection.ending).1).foldl
        LimitedBuffer.write output ∧
      (received = true ∨
        payloads (decodeRCONPackets bytes connection.ending).1 ≠ []) := by
  fun_induction readResponses with
  | case1 bytes output received responses error decoded complete =>
      cases done
      rw [decodeRCONPackets_error decoded]
      exact ⟨rfl, Or.inl complete.1⟩
  | case2 => cases done
  | case3 bytes output received responses packet rest decoded foreign ih =>
      have skipped : responding packet = false := by
        rw [responding]
        apply decide_eq_false
        rintro ⟨id, type⟩
        cases foreign with
        | inl differs => exact differs id
        | inr differs => exact differs type
      rw [decodeRCONPackets_ok decoded, payloads_cons, skipped]
      exact ih done
  | case4 bytes output received responses packet rest decoded response full
      ih =>
      have taken : responding packet = true := by
        rw [responding]
        apply decide_eq_true
        tauto
      rw [decodeRCONPackets_ok decoded, payloads_cons, if_pos taken]
      obtain ⟨written, -⟩ := ih done
      exact ⟨written, Or.inr (List.cons_ne_nil _ _)⟩
  | case5 => cases done
  | case6 bytes output received responses packet rest decoded response room
      noError ih =>
      have taken : responding packet = true := by
        rw [responding]
        apply decide_eq_true
        tauto
      rw [decodeRCONPackets_ok decoded, payloads_cons, if_pos taken]
      obtain ⟨written, -⟩ := ih done
      exact ⟨written, Or.inr (List.cons_ne_nil _ _)⟩

/-- The packets that `executeRCON` writes, in order. -/
def executeRCONWrites
    (dialed : Except String RCONConnection) (password command : String) :
    List RCONPacket :=
  match dialed with
  | .error _ => []
  | .ok connection =>
      match connection.deadlineError with
      | some _ => []
      | none =>
          ⟨1, rconAuth, Utf8.encode password.toList⟩ ::
            match writeRCONPacket connection 0
                ⟨1, rconAuth, Utf8.encode password.toList⟩ with
            | .error _ => []
            | .ok _ =>
                match authenticate connection.ending 2
                    connection.received with
                | .error _ => []
                | .ok _ =>
                    [⟨2, rconCommand, Utf8.encode command.toList⟩]

/-- The command is written to a server that accepted the password with one of
its first two packets. -/
theorem acceptedWithinTwo_of_written
    {dialed : Except String RCONConnection} {password command : String}
    (written : ⟨2, rconCommand, Utf8.encode command.toList⟩ ∈
      executeRCONWrites dialed password command) :
    ∃ connection : RCONConnection,
      dialed = .ok connection ∧ AcceptedWithinTwo connection.packets := by
  unfold executeRCONWrites at written
  split at written
  · cases written
  next connection =>
    refine ⟨connection, rfl, ?_⟩
    split at written
    · cases written
    · have behind := List.mem_of_ne_of_mem
        (by intro same; cases same) written
      split at behind
      · cases behind
      · split at behind
        · cases behind
        next rest authenticated =>
          obtain ⟨before, accepted, packets, short, accepts, others⟩ :=
            authenticate_ok authenticated
          refine ⟨before, accepted, _, packets, Nat.le_of_lt_succ short,
            accepts, ?_⟩
          intro packet member
          exact (others packet member).1

/-- A result without an error is the output of a buffer to which the payloads of
the response were written. -/
theorem executeRCON_ok
    {dialed : Except String RCONConnection} {password command : String}
    {outputLimit : Int} {output : List UInt8}
    (executed : executeRCON dialed password command outputLimit =
      .ok output) :
    ∃ connection : RCONConnection,
      dialed = .ok connection ∧ connection.responses ≠ [] ∧
        output =
          (LimitedBuffer.writeAll outputLimit connection.responses).string := by
  unfold executeRCON at executed
  split at executed
  · cases executed
  next connection =>
    refine ⟨connection, rfl, ?_⟩
    split at executed
    · cases executed
    · split at executed
      · cases executed
      · split at executed
        · cases executed
        next rest authenticated =>
          obtain ⟨before, accepted, packets, -, accepts, others⟩ :=
            authenticate_ok authenticated
          have responses : connection.responses =
              payloads (decodeRCONPackets rest connection.ending).1 := by
            rw [RCONConnection.responses, RCONConnection.packets, packets,
              tail_dropWhile_accepting accepts others]
          split at executed
          · cases executed
          · split at executed
            · cases executed
            next final done =>
              obtain ⟨written, received⟩ := readResponses_ok done
              cases executed
              rw [responses, written]
              refine ⟨?_, rfl⟩
              cases received with
              | inl impossible => cases impossible
              | inr nonempty => exact nonempty

/-- The command is written only to a server that accepted the password in time.
What is then returned, and what a limited buffer returns, is the captured
output exactly when no empty chunk comes last to a full buffer (and a buffer
with a negative limit is written to at all). -/
theorem capture_exact_iff
    (dialed : Except String RCONConnection) (password command : String)
    (outputLimit limit : Int) (chunks : List (List UInt8)) :
    (⟨2, rconCommand, Utf8.encode command.toList⟩ ∈
          executeRCONWrites dialed password command →
        ∃ connection : RCONConnection,
          dialed = .ok connection ∧
            AcceptedWithinTwo connection.packets) ∧
      (∀ output : List UInt8,
        executeRCON dialed password command outputLimit = .ok output →
          ∃ connection : RCONConnection,
            dialed = .ok connection ∧
              (output = captured outputLimit connection.responses ↔
                ¬ EndsEmptyWhenFull outputLimit connection.responses)) ∧
      (cappedCombinedOutput chunks limit = captured limit chunks ↔
        ¬ EndsEmptyWhenFull limit chunks ∧ (limit < 0 → chunks ≠ [])) := by
  refine ⟨?_, ?_, ?_⟩
  · intro written
    exact acceptedWithinTwo_of_written written
  · intro output executed
    obtain ⟨connection, connected, nonempty, outputEq⟩ :=
      executeRCON_ok executed
    refine ⟨connection, connected, ?_⟩
    rw [outputEq, LimitedBuffer.string_eq_captured_iff]
    constructor
    · intro exact
      exact exact.1
    · intro notFull
      exact ⟨notFull, fun _ => nonempty⟩
  · exact LimitedBuffer.string_eq_captured_iff limit chunks

/-- A server that accepts the password and answers `hi` and an empty packet. -/
def greetingConnection : RCONConnection where
  deadlineError := none
  writeErrors := fun _ => none
  quietDeadlineErrors := fun _ => none
  received :=
    packetBytes ⟨1, 2, []⟩ ++ packetBytes ⟨2, 0, [104, 105]⟩ ++
      packetBytes ⟨2, 0, []⟩
  ending := .eof

/-- With room for three bytes the answer comes back whole. -/
theorem greeting_captured :
    (∃ connection : RCONConnection,
      (Except.ok greetingConnection : Except String RCONConnection) =
          .ok connection ∧ AcceptedWithinTwo connection.packets) ∧
      (∃ connection : RCONConnection,
        (Except.ok greetingConnection : Except String RCONConnection) =
            .ok connection ∧
          ([104, 105] = captured 3 connection.responses ↔
            ¬ EndsEmptyWhenFull 3 connection.responses)) ∧
        (cappedCombinedOutput [] (-1) = captured (-1) [] ↔
          ¬ EndsEmptyWhenFull (-1) [] ∧ ((-1 : Int) < 0 → ([] : List (List UInt8)) ≠ [])) := by
  obtain ⟨sent, returned, buffered⟩ :=
    capture_exact_iff (.ok greetingConnection) "secret" "list" 3 (-1) []
  refine ⟨?_, ?_, buffered⟩
  · exact sent (by decide +kernel)
  · exact returned [104, 105] (by decide +kernel)

/-- With room for just the answer, the empty packet behind it is taken for
dropped output. -/
theorem whole_greeting_marked :
    executeRCON (.ok greetingConnection) "secret" "list" 2 =
        .ok ([104, 105] ++ truncationBytes) ∧
      captured 2 greetingConnection.responses = [104, 105] ∧
      cappedCombinedOutput [[104, 105], []] 2 =
        [104, 105] ++ truncationBytes ∧
      captured 2 [[104, 105], []] = [104, 105] ∧
      [104, 105] ++ truncationBytes ≠ ([104, 105] : List UInt8) := by
  decide +kernel

end GravitPanel.Agent
