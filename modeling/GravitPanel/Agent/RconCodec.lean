import GravitPanel.Agent.Rcon

/-!
# The RCON codec on a stream

What `encodeRCONPacket` writes, `decodeRCONPacket` reads back, packet after
packet, and what it reads without a NUL is what `encodeRCONPacket` writes.
-/

namespace GravitPanel.Agent

theorem or_shiftLeft
    {low : Nat} (high shift : Nat) (below : low < 2 ^ shift) :
    low ||| high <<< shift = low + 2 ^ shift * high := by
  rw [Nat.or_comm, ← Nat.shiftLeft_add_eq_or_of_lt below,
    Nat.shiftLeft_eq, Nat.add_comm, Nat.mul_comm]

theorem toNat_uint32 (first second third fourth : UInt8) :
    (uint32 [first, second, third, fourth]).toNat =
      first.toNat + 2 ^ 8 * second.toNat + 2 ^ 16 * third.toNat +
        2 ^ 24 * fourth.toNat := by
  have firstBelow := first.toNat_lt
  have secondBelow := second.toNat_lt
  have thirdBelow := third.toNat_lt
  have fourthBelow := fourth.toNat_lt
  have shifted (byte : UInt8) (shift : Nat) (small : shift ≤ 24) :
      byte.toNat <<< shift % 2 ^ 32 = byte.toNat <<< shift := by
    have below := byte.toNat_lt
    have power : 2 ^ shift ≤ 2 ^ 24 :=
      Nat.pow_le_pow_right (by decide) small
    apply Nat.mod_eq_of_lt
    rw [Nat.shiftLeft_eq]
    calc
      byte.toNat * 2 ^ shift ≤ byte.toNat * 2 ^ 24 :=
        Nat.mul_le_mul_left _ power
      _ < 2 ^ 32 := by omega
  simp only [uint32, UInt32.toNat_or, UInt32.toNat_shiftLeft,
    UInt8.toNat_toUInt32, UInt32.reduceToNat, Nat.reduceMod]
  rw [shifted second 8 (by decide), shifted third 16 (by decide),
    shifted fourth 24 (by decide),
    or_shiftLeft second.toNat 8 (by omega),
    or_shiftLeft third.toNat 16 (by omega),
    or_shiftLeft fourth.toNat 24 (by omega)]

theorem uint32_putUint32 (value : UInt32) :
    uint32 (putUint32 value) = value := by
  apply UInt32.toNat_inj.mp
  have bound := value.toNat_lt
  rw [putUint32, toNat_uint32]
  simp only [UInt32.toNat_toUInt8, UInt32.toNat_shiftRight,
    UInt32.reduceToNat, Nat.shiftRight_eq_div_pow, Nat.reduceMod]
  omega

variable {packet : RCONPacket} {bytes : List UInt8} {ending : ReadError}

theorem putUint32_uint32
    (four : bytes.length = 4) :
    putUint32 (uint32 bytes) = bytes := by
  obtain ⟨first, second, third, fourth, rfl⟩ :=
    List.length_eq_four.mp four
  have value := toNat_uint32 first second third fourth
  have firstBelow := first.toNat_lt
  have secondBelow := second.toNat_lt
  have thirdBelow := third.toNat_lt
  have fourthBelow := fourth.toNat_lt
  simp only [putUint32, List.cons.injEq, and_true, ← UInt8.toNat_inj,
    UInt32.toNat_toUInt8, UInt32.toNat_shiftRight,
    UInt32.reduceToNat, Nat.shiftRight_eq_div_pow, Nat.reduceMod, value]
  omega

@[simp] theorem length_putUint32 (value : UInt32) :
    (putUint32 value).length = 4 :=
  rfl

theorem toInt_ofNat
    {length : Nat} (small : length ≤ maxRCONPacket) :
    (UInt32.ofNat length).toInt32.toInt = length := by
  have bounded : length < 2 ^ 31 := by
    unfold maxRCONPacket at small
    omega
  change (BitVec.ofNat 32 length).toInt = length
  have unsigned : (BitVec.ofNat 32 length).toNat = length := by
    rw [BitVec.toNat_ofNat]
    omega
  have signed := BitVec.toInt_eq_toNat_cond (BitVec.ofNat 32 length)
  rw [unsigned] at signed
  split at signed <;> omega

theorem ofNat_toNat_toInt
    {value : UInt32} (positive : 0 ≤ value.toInt32.toInt) :
    UInt32.ofNat value.toInt32.toInt.toNat = value := by
  change 0 ≤ value.toBitVec.toInt at positive
  change UInt32.ofNat value.toBitVec.toInt.toNat = value
  have unsigned : value.toBitVec.toInt.toNat = value.toNat := by
    have signed := BitVec.toInt_eq_toNat_cond value.toBitVec
    have same : value.toBitVec.toNat = value.toNat := rfl
    have bound := value.toNat_lt
    split at signed <;> omega
  rw [unsigned, UInt32.ofNat_toNat]

def packetBytes (packet : RCONPacket) : List UInt8 :=
  putUint32 (UInt32.ofNat (4 + 4 + packet.payload.length + 2)) ++
    putUint32 packet.id.toUInt32 ++ putUint32 packet.type.toUInt32 ++
      packet.payload ++ [0, 0]

theorem encodeRCONPacket_ok_iff
    (packet : RCONPacket) (bytes : List UInt8) :
    encodeRCONPacket packet = .ok bytes ↔
      0 ∉ packet.payload ∧
        packet.payload.length + 10 ≤ maxRCONPacket ∧
          bytes = packetBytes packet := by
  unfold encodeRCONPacket
  by_cases nul : 0 ∈ packet.payload
  · rw [if_pos nul]
    simp [nul]
  · rw [if_neg nul]
    by_cases large :
        maxRCONPacket < 4 + 4 + packet.payload.length + 2
    · simp only [if_pos large]
      constructor
      · intro impossible
        cases impossible
      · rintro ⟨-, small, -⟩
        omega
    · simp only [if_neg large]
      constructor
      · intro encoded
        cases encoded
        exact ⟨nul, by omega, rfl⟩
      · rintro ⟨-, -, rfl⟩
        rfl

theorem readFull_append
    (chunk rest : List UInt8) (ending : ReadError) {count : Nat}
    (length : chunk.length = count) :
    readFull count (chunk ++ rest) ending = .ok (chunk, rest) := by
  subst length
  have enough : chunk.length ≤ (chunk ++ rest).length := by simp
  rw [readFull, if_pos enough, List.take_left, List.drop_left]

theorem readFull_ok
    {count : Nat} {bytes read rest : List UInt8}
    (done : readFull count bytes ending = .ok (read, rest)) :
    read.length = count ∧ bytes = read ++ rest := by
  unfold readFull at done
  split at done
  next enough =>
    cases done
    exact ⟨List.length_take_of_le enough,
      (List.take_append_drop count bytes).symm⟩
  next =>
    split at done <;> cases done

theorem readFull_empty
    {count : Nat} (positive : 0 < count) (ending : ReadError) :
    readFull count [] ending = .error ending := by
  have short : ¬ count ≤ ([] : List UInt8).length := by
    simp
    omega
  rw [readFull, if_neg short, if_neg (fun partly => partly.2 rfl)]

theorem decodeRCONPacket_empty (ending : ReadError) :
    decodeRCONPacket [] ending = .error ending := by
  rw [decodeRCONPacket, readFull_empty (by decide)]

theorem decodeRCONPacket_frame
    (id type : UInt32) (payload rest : List UInt8) (ending : ReadError)
    (small : payload.length + 10 ≤ maxRCONPacket) :
    decodeRCONPacket
        (packetBytes ⟨id.toInt32, type.toInt32, payload⟩ ++ rest) ending =
      .ok (⟨id.toInt32, type.toInt32, payload⟩, rest) := by
  let fields := putUint32 id ++ putUint32 type
  let body := fields ++ payload ++ [0, 0]
  have framed :
      packetBytes ⟨id.toInt32, type.toInt32, payload⟩ ++ rest =
        putUint32 (UInt32.ofNat (4 + 4 + payload.length + 2)) ++
          (body ++ rest) := by
    simp only [packetBytes, body, fields, List.append_assoc]
    rfl
  have header : (UInt32.ofNat
      (4 + 4 + payload.length + 2)).toInt32.toInt =
        ((4 + 4 + payload.length + 2 : Nat) : Int) :=
    toInt_ofNat (by omega)
  have eight : fields.length = 8 :=
    rfl
  have length : body.length = 4 + 4 + payload.length + 2 := by
    simp only [body, List.length_append, eight, List.length_cons,
      List.length_nil]
  have inRange : ¬ ((((4 + 4 + payload.length + 2 : Nat) : Int) < 10) ∨
      (maxRCONPacket : Int) < ((4 + 4 + payload.length + 2 : Nat) : Int)) := by
    omega
  have cut : (fields ++ payload).length = body.length - 2 := by
    rw [length, List.length_append, eight]
    omega
  have closed : body.drop (body.length - 2) = [0, 0] :=
    List.drop_left' cut
  have opened : (body.take (body.length - 2)).drop 8 = payload := by
    rw [List.take_left' cut]
    exact List.drop_left' eight
  have idBytes : body.take 4 = putUint32 id := by
    simp only [body, fields, List.append_assoc]
    exact List.take_left' (length_putUint32 id)
  have typeBytes : (body.drop 4).take 4 = putUint32 type := by
    simp only [body, fields, List.append_assoc]
    rw [List.drop_left' (length_putUint32 id)]
    exact List.take_left' (length_putUint32 type)
  rw [framed, decodeRCONPacket,
    readFull_append _ _ _ (length_putUint32 _)]
  simp only [uint32_putUint32, header, if_neg inRange, Int.toNat_natCast]
  rw [readFull_append _ _ _ length]
  simp only [closed, opened, idBytes, typeBytes, uint32_putUint32]
  rfl

theorem body_fields
    {body : List UInt8} (long : 10 ≤ body.length)
    (closed : body.drop (body.length - 2) = [0, 0]) :
    body.take 4 ++ (body.drop 4).take 4 ++
      (body.take (body.length - 2)).drop 8 ++ [0, 0] = body := by
  have opening : body.take 4 ++ (body.drop 4).take 4 =
      (body.take (body.length - 2)).take 8 := by
    rw [← List.take_add, List.take_take, Nat.min_eq_left (by omega)]
  rw [opening, List.take_append_drop, ← closed, List.take_append_drop]

theorem decodeRCONPacket_ok
    {bytes rest : List UInt8}
    (decoded : decodeRCONPacket bytes ending = .ok (packet, rest)) :
    packet.payload.length + 10 ≤ maxRCONPacket ∧
      bytes = packetBytes packet ++ rest := by
  unfold decodeRCONPacket at decoded
  split at decoded
  · cases decoded
  next header afterHeader headerRead =>
    obtain ⟨headerLength, rfl⟩ := readFull_ok headerRead
    simp only at decoded
    split at decoded
    · cases decoded
    next inRange =>
      split at decoded
      · cases decoded
      next body left bodyRead =>
        obtain ⟨bodyLength, rfl⟩ := readFull_ok bodyRead
        split at decoded
        · cases decoded
        next closing =>
          have closed := Decidable.of_not_not closing
          cases decoded
          have payloadLength :
              ((body.take (body.length - 2)).drop 8).length + 10 =
                body.length := by
            rw [List.length_drop, List.length_take]
            omega
          have lengthBytes :
              putUint32 (UInt32.ofNat (4 + 4 +
                ((body.take (body.length - 2)).drop 8).length + 2)) =
                  header := by
            have whole : 4 + 4 +
                ((body.take (body.length - 2)).drop 8).length + 2 =
                  (uint32 header).toInt32.toInt.toNat := by
              omega
            rw [whole, ofNat_toNat_toInt (by omega),
              putUint32_uint32 headerLength]
          have idBytes : putUint32 (uint32 (body.take 4)) = body.take 4 :=
            putUint32_uint32 (List.length_take_of_le (by omega))
          have typeBytes :
              putUint32 (uint32 ((body.drop 4).take 4)) =
                (body.drop 4).take 4 := by
            apply putUint32_uint32
            rw [List.length_take, List.length_drop]
            omega
          refine ⟨by dsimp only; omega, ?_⟩
          have fields := body_fields (by omega) closed
          rw [packetBytes, UInt32.toUInt32_toInt32,
            UInt32.toUInt32_toInt32, lengthBytes, idBytes, typeBytes,
            List.append_assoc header, List.append_assoc header,
            List.append_assoc header, fields, List.append_assoc]

/-- What the encoder accepts comes back from the decoder, which leaves the
bytes after it. -/
theorem decodeRCONPacket_encoded
    (encoded : encodeRCONPacket packet = .ok bytes)
    (rest : List UInt8) (ending : ReadError) :
    decodeRCONPacket (bytes ++ rest) ending = .ok (packet, rest) := by
  obtain ⟨-, small, rfl⟩ := (encodeRCONPacket_ok_iff packet bytes).mp encoded
  exact decodeRCONPacket_frame packet.id.toUInt32 packet.type.toUInt32
    packet.payload rest ending small

/-- Decode until an error: the packets, the error, and the bytes that were left
when it came. -/
def decodeRCONPackets (bytes : List UInt8) (ending : ReadError) :
    List RCONPacket × ReadError × List UInt8 :=
  match _decoded : decodeRCONPacket bytes ending with
  | .error error => ([], error, bytes)
  | .ok (packet, rest) =>
      let (packets, last) := decodeRCONPackets rest ending
      (packet :: packets, last)
termination_by bytes.length
decreasing_by exact decodeRCONPacket_shorter _decoded

theorem decodeRCONPackets_error
    {ending error : ReadError}
    (failed : decodeRCONPacket bytes ending = .error error) :
    decodeRCONPackets bytes ending = ([], error, bytes) := by
  unfold decodeRCONPackets
  split
  next other decoded =>
    rw [failed] at decoded
    cases decoded
    rfl
  next decoded =>
    rw [failed] at decoded
    cases decoded

theorem decodeRCONPackets_ok
    {bytes rest : List UInt8}
    (decoded : decodeRCONPacket bytes ending = .ok (packet, rest)) :
    decodeRCONPackets bytes ending =
      (packet :: (decodeRCONPackets rest ending).1,
        (decodeRCONPackets rest ending).2) := by
  rw [decodeRCONPackets]
  split
  next failed =>
    rw [decoded] at failed
    cases failed
  next other =>
    rw [decoded] at other
    cases other
    rfl

/-- Packets that the encoder accepts one by one come back in order from the
concatenation of their encodings, and nothing of it is left. -/
theorem decodeRCONPackets_encoded
    {packets : List RCONPacket} {encodings : List (List UInt8)}
    (encoded : List.Forall₂
      (fun packet bytes => encodeRCONPacket packet = .ok bytes)
      packets encodings)
    (ending : ReadError) :
    decodeRCONPackets encodings.flatten ending = (packets, ending, []) := by
  induction encoded with
  | nil => exact decodeRCONPackets_error (decodeRCONPacket_empty ending)
  | cons first _ ih =>
      rw [List.flatten_cons,
        decodeRCONPackets_ok (decodeRCONPacket_encoded first _ ending),
        ih]

/-- Packets that are encoded and sent one after the other are decoded as they
were; a packet that is decoded without a NUL is encoded as it was. -/
theorem rconCodec_exact :
    (∀ (packets : List RCONPacket) (encodings : List (List UInt8)),
      List.Forall₂ (fun packet bytes => encodeRCONPacket packet = .ok bytes)
          packets encodings →
        ∀ ending : ReadError,
          decodeRCONPackets encodings.flatten ending =
            (packets, ending, [])) ∧
      ∀ (bytes rest : List UInt8) (ending : ReadError) (packet : RCONPacket),
        decodeRCONPacket bytes ending = .ok (packet, rest) →
          0 ∉ packet.payload →
            ∃ consumed : List UInt8,
              bytes = consumed ++ rest ∧
                encodeRCONPacket packet = .ok consumed := by
  constructor
  · intro packets encodings encoded ending
    exact decodeRCONPackets_encoded encoded ending
  · intro bytes rest ending packet decoded noNul
    obtain ⟨small, framed⟩ := decodeRCONPacket_ok decoded
    refine ⟨packetBytes packet, framed, ?_⟩
    exact (encodeRCONPacket_ok_iff packet _).mpr ⟨noNul, small, rfl⟩

/-- A refused login and an empty response, back to back. -/
theorem refusal_and_response_exact :
    decodeRCONPackets
        [[10, 0, 0, 0, 255, 255, 255, 255, 2, 0, 0, 0, 0, 0],
          [12, 0, 0, 0, 2, 0, 0, 0, 0, 0, 0, 0, 104, 105, 0, 0]].flatten
        .eof =
      ([⟨-1, 2, []⟩, ⟨2, 0, [104, 105]⟩], .eof, []) ∧
      ∃ consumed : List UInt8,
        [12, 0, 0, 0, 2, 0, 0, 0, 0, 0, 0, 0, 104, 105, 0, 0, 7] =
            consumed ++ [7] ∧
          encodeRCONPacket ⟨2, 0, [104, 105]⟩ = .ok consumed := by
  constructor
  · apply rconCodec_exact.1
    exact .cons (by decide +kernel) (.cons (by decide +kernel) .nil)
  · exact rconCodec_exact.2 _ [7] .eof ⟨2, 0, [104, 105]⟩
      (by decide +kernel) (by decide)

end GravitPanel.Agent
