import GravitPanel.Agent.Rcon
import GravitPanel.Servers.AgentStore

/-!
# The output of a command on its way to the panel

The agent cuts an output at `maxOutputBytes` bytes and appends a marker, JSON
puts U+FFFD for bytes that are not UTF-8, and `finishCommand` cuts the text,
marker included, at as many UTF-16 code units.
-/

namespace GravitPanel.Servers

open GravitPanel.Agent ServerAgentStore

/-- The outputs that `command.completed` can carry, as the bytes of the
agent's string. -/
inductive Reportable : List UInt8 → Prop
  | systemctl (chunks : List (List UInt8)) :
      Reportable (cappedCombinedOutput chunks maxOutputBytes)
  | rcon {dialed : Except String RCONConnection}
      {password command : String} {output : List UInt8}
      (executed : executeRCON dialed password command maxOutputBytes =
        .ok output) :
      Reportable output

def messageText (output : List UInt8) : String :=
  String.ofList (Utf8.decode output)

/-- What the command record holds after `finishCommand`. -/
def storedOutput
    (store : ServerAgentStore) (id text : String) (now : Nat) :
    Option String :=
  ((store.finishCommand id (some text) none now).getCommand id).bind
    ServerCommand.output

def markerBytes : List UInt8 :=
  Utf8.encode truncationMarker.toList

/-- The output was cut, and what was kept of it reads as a text that leaves no
room for the marker. -/
def LosesMarker (output : List UInt8) : Prop :=
  ∃ kept : List UInt8, kept.length = maxOutputBytes ∧
    output = kept ++ markerBytes ∧
      65517 < JavaScript.length (messageText kept)

theorem reportable_limited
    {output : List UInt8} (reported : Reportable output) :
    ∃ buffer : LimitedBuffer maxOutputBytes, output = buffer.string := by
  cases reported with
  | systemctl chunks => exact ⟨_, rfl⟩
  | rcon executed => exact executeRCON_limited executed

theorem length_messageText (output : List UInt8) :
    JavaScript.length (messageText output) =
      ((Utf8.decode output).map JavaScript.units).sum := by
  rw [JavaScript.length, messageText, String.toList_ofList]

theorem length_messageText_le (output : List UInt8) :
    JavaScript.length (messageText output) ≤ output.length := by
  rw [length_messageText]
  exact Utf8.units_decode_le output

theorem length_marked (kept : List UInt8) :
    JavaScript.length (messageText (kept ++ markerBytes)) =
      JavaScript.length (messageText kept) + 19 := by
  have ascii : ∀ byte ∈ markerBytes, byte.toNat < 0x80 := by
    have all : markerBytes.all fun byte => byte.toNat < 0x80 := by decide
    simpa using all
  have marker :
      ((Utf8.decode markerBytes).map JavaScript.units).sum = 19 := by
    rw [markerBytes, Utf8.decode_encode]
    decide
  rw [length_messageText, length_messageText,
    Utf8.decode_append_ascii _ _ ascii, List.map_append, List.sum_append,
    marker]

/-- A reported text is longer than the panel's limit exactly when the marker
finds no room. -/
theorem overlong_iff_losesMarker
    {output : List UInt8} (reported : Reportable output) :
    65536 < JavaScript.length (messageText output) ↔
      LosesMarker output := by
  obtain ⟨buffer, rfl⟩ := reportable_limited reported
  constructor
  · intro long
    cases cut : buffer.truncated with
    | false =>
        have same : buffer.string = buffer.kept := by
          rw [LimitedBuffer.string, cut]
          rfl
        have bound := length_messageText_le buffer.kept
        have kept := buffer.kept_le
        rw [same] at long
        unfold maxOutputBytes at kept
        omega
    | true =>
        have marked : buffer.string = buffer.kept ++ markerBytes := by
          rw [LimitedBuffer.string, cut]
          rfl
        refine ⟨buffer.kept, buffer.full cut, marked, ?_⟩
        rw [marked, length_marked] at long
        omega
  · rintro ⟨kept, -, marked, long⟩
    rw [marked, length_marked]
    omega

theorem finishedRow_id
    (id : String) (output error : Option String) (now : Nat)
    (command : ServerCommand) :
    (finishedRow id output error now command).id = command.id := by
  unfold finishedRow
  split <;> rfl

theorem getCommand_finishCommand
    (store : ServerAgentStore) (id : String) (output error : Option String)
    (now : Nat) :
    (store.finishCommand id output error now).getCommand id =
      (store.getCommand id).map (finishedRow id output error now) := by
  unfold finishCommand updateCommands getCommand
  simp only [List.find?_map, Function.comp_def, finishedRow_id]

theorem storedOutput_eq
    {store : ServerAgentStore} {id : String} {command : ServerCommand}
    (current : store.getCommand id = some command)
    (unfinished : ¬ command.status.terminal) (text : String) (now : Nat) :
    storedOutput store id text now =
      some (JavaScript.slice 65536 text) := by
  have found : command.id = id := by
    have selected := List.find?_some current
    exact of_decide_eq_true selected
  rw [storedOutput, getCommand_finishCommand, current, Option.map_some,
    Option.bind_some, finishedRow, if_pos ⟨found, unfinished⟩,
    Option.map_some]

/-- A reported output is stored as the message carries it exactly when the
marker of a cut output finds room, and byte for byte as the agent captured it
exactly when these bytes are UTF-8 as well. -/
theorem output_survives_iff
    (store : ServerAgentStore) (id : String) (command : ServerCommand)
    (now : Nat) (output : List UInt8)
    (current : store.getCommand id = some command)
    (unfinished : ¬ command.status.terminal)
    (reported : Reportable output) :
    (storedOutput store id (messageText output) now =
        some (messageText output) ↔ ¬ LosesMarker output) ∧
      ((storedOutput store id (messageText output) now).map
          (fun text => Utf8.encode text.toList) = some output ↔
        ¬ LosesMarker output ∧ Utf8.Valid output) := by
  have stored := storedOutput_eq current unfinished (messageText output) now
  have fits : JavaScript.slice 65536 (messageText output) =
      messageText output ↔ ¬ LosesMarker output := by
    rw [JavaScript.slice_eq_self_iff, ← overlong_iff_losesMarker reported,
      Nat.not_lt]
  have characters : (messageText output).toList = Utf8.decode output := by
    rw [messageText, String.toList_ofList]
  rw [stored, Option.map_some, Option.some_inj, Option.some_inj]
  refine ⟨fits, ?_⟩
  constructor
  · intro same
    have valid : Utf8.Valid output := ⟨_, same.symm⟩
    have decoded : Utf8.decode output =
        (JavaScript.slice 65536 (messageText output)).toList := by
      rw [← same, Utf8.decode_encode, same]
    refine ⟨fits.mp ?_, valid⟩
    rw [← String.toList_inj, characters, decoded]
  · rintro ⟨room, valid⟩
    rw [fits.mpr room, characters]
    exact (Utf8.encode_decode_eq_iff output).mpr valid

def runningCommand : ServerCommand :=
  { newCommand "c1" "b1" .serviceStart none 0 with status := .running }

def runningStore : ServerAgentStore :=
  { ServerAgentStore.empty with commands := [runningCommand] }

theorem output_survives_short :
    (storedOutput runningStore "c1"
          (messageText (cappedCombinedOutput [[104, 105]] maxOutputBytes))
          1 =
        some (messageText
          (cappedCombinedOutput [[104, 105]] maxOutputBytes)) ↔
      ¬ LosesMarker (cappedCombinedOutput [[104, 105]] maxOutputBytes)) ∧
      ((storedOutput runningStore "c1"
          (messageText (cappedCombinedOutput [[104, 105]] maxOutputBytes))
          1).map (fun text => Utf8.encode text.toList) =
        some (cappedCombinedOutput [[104, 105]] maxOutputBytes) ↔
      ¬ LosesMarker (cappedCombinedOutput [[104, 105]] maxOutputBytes) ∧
        Utf8.Valid (cappedCombinedOutput [[104, 105]] maxOutputBytes)) :=
  output_survives_iff runningStore "c1" runningCommand 1 _ rfl (by decide)
    (.systemctl [[104, 105]])

theorem encode_letters (count : Nat) :
    Utf8.encode (List.replicate count 'x') = List.replicate count 120 := by
  induction count with
  | zero => rfl
  | succ count ih =>
      rw [List.replicate_succ, Utf8.encode_cons, ih,
        List.replicate_succ]
      rfl

theorem cappedCombinedOutput_long
    {chunk : List UInt8} {limit : Nat}
    (positive : 0 < limit) (long : limit < chunk.length) :
    cappedCombinedOutput [chunk] limit = chunk.take limit ++ markerBytes := by
  have remaining :
      (LimitedBuffer.empty : LimitedBuffer limit).remaining = limit :=
    Int.sub_zero limit
  obtain ⟨kept, truncated⟩ :=
    @LimitedBuffer.write_cut limit .empty chunk (by omega) (by omega)
  rw [cappedCombinedOutput, List.foldl_cons, List.foldl_nil,
    LimitedBuffer.string, if_pos truncated, kept, remaining,
    Int.toNat_natCast]
  rfl

/-- 65537 letters are stored without the marker that the agent appended. -/
theorem truncated_output_loses_marker :
    Reportable (cappedCombinedOutput [List.replicate 65537 120]
        maxOutputBytes) ∧
      messageText (cappedCombinedOutput [List.replicate 65537 120]
          maxOutputBytes) =
        String.ofList (List.replicate 65536 'x' ++
          truncationMarker.toList) ∧
      storedOutput runningStore "c1"
          (messageText (cappedCombinedOutput [List.replicate 65537 120]
            maxOutputBytes)) 1 =
        some (String.ofList (List.replicate 65536 'x')) ∧
      storedOutput runningStore "c1"
          (messageText (cappedCombinedOutput [List.replicate 65537 120]
            maxOutputBytes)) 1 ≠
        some (messageText (cappedCombinedOutput [List.replicate 65537 120]
          maxOutputBytes)) := by
  have cut : cappedCombinedOutput [List.replicate 65537 120]
      maxOutputBytes =
        Utf8.encode (List.replicate 65536 'x' ++
          truncationMarker.toList) := by
    have long : maxOutputBytes < (List.replicate 65537 (120 : UInt8)).length := by
      rw [List.length_replicate]
      decide
    rw [cappedCombinedOutput_long (by decide) long, List.take_replicate,
      Utf8.encode, List.flatMap_append]
    exact congrArg (· ++ markerBytes) (encode_letters 65536).symm
  have text : messageText (cappedCombinedOutput
      [List.replicate 65537 120] maxOutputBytes) =
        String.ofList (List.replicate 65536 'x' ++
          truncationMarker.toList) := by
    rw [messageText, cut, Utf8.decode_encode]
  have size :
      ((List.replicate 65536 'x').map JavaScript.units).sum = 65536 := by
    have unit : JavaScript.units 'x' = 1 := by decide
    rw [List.map_replicate, List.sum_replicate_nat, unit]
  have stored : storedOutput runningStore "c1"
      (messageText (cappedCombinedOutput [List.replicate 65537 120]
        maxOutputBytes)) 1 =
        some (String.ofList (List.replicate 65536 'x')) := by
    rw [storedOutput_eq (rfl : runningStore.getCommand "c1" =
        some runningCommand) (by decide), text, JavaScript.slice,
      String.toList_ofList, JavaScript.sliceChars_append _
        (Nat.le_of_eq size), size, Nat.sub_self, JavaScript.sliceChars_zero,
      List.append_nil]
  refine ⟨.systemctl _, text, stored, ?_⟩
  rw [stored, text]
  intro same
  have lengths := congrArg
    (fun output : Option String => (output.getD "").toList.length) same
  simp only [Option.getD_some, String.toList_ofList, List.length_append,
    List.length_replicate] at lengths
  have marker : truncationMarker.toList.length = 19 := by decide
  omega

end GravitPanel.Servers
