import RosrustAsync.HeaderRoundTrip

namespace RosrustAsync

/-! Frames over a stream: the header of a connection, and the messages behind it. -/

def readU32LeAsync (cs : List Bytes) : Except IoError (UInt32 × List Bytes) := do
  let (bs, cs) ← readExactAsync 4 cs
  let (n, _) ← readU32 bs
  .ok (n, cs)

def readTcprosFrame (cs : List Bytes) : Except IoError (Bytes × List Bytes) := do
  let (bodyLength, cs) ← readU32LeAsync cs
  let (body, cs) ← readExactAsync bodyLength.toNat cs
  .ok (le32 bodyLength ++ body, cs)

def fromAsyncRead (T : Type) [Header T] (cs : List Bytes) : Except HeaderError (T × List Bytes) :=
  match readTcprosFrame cs with
  | .error e => .error (.io e)
  | .ok (frame, cs) => do .ok (← fromBytes T frame, cs)

def readTcprosFrames : ℕ → List Bytes → Except IoError (List Bytes × List Bytes)
  | 0, cs => .ok ([], cs)
  | n + 1, cs => do
    let (frame, cs) ← readTcprosFrame cs
    let (frames, cs) ← readTcprosFrames n cs
    .ok (frame :: frames, cs)

def frame (payload : Bytes) : Bytes := le32 (.ofNat payload.length) ++ payload

def IsFrame (m : Bytes) : Prop := ∃ payload, payload.length < 2 ^ 32 ∧ m = frame payload

theorem readU32LeAsync_le32 {n : UInt32} {cs : List Bytes} {rest : Bytes}
    (h : cs.flatten = le32 n ++ rest) :
    ∃ ds, readU32LeAsync cs = .ok (n, ds) ∧ ds.flatten = rest := by
  obtain ⟨ds, hread, hds⟩ := readExactAsync_ok _ _ cs h
  have hn := readU32_le32 n []
  rw [List.append_nil] at hn
  exact ⟨ds, bind_eq_ok.mpr ⟨_, hread, bind_eq_ok.mpr ⟨_, hn, rfl⟩⟩, hds⟩

theorem readTcprosFrame_frame {payload : Bytes} (hp : payload.length < 2 ^ 32) {cs : List Bytes}
    {rest : Bytes} (h : cs.flatten = frame payload ++ rest) :
    ∃ ds, readTcprosFrame cs = .ok (frame payload, ds) ∧ ds.flatten = rest := by
  rw [frame, List.append_assoc] at h
  obtain ⟨ds, hprefix, hds⟩ := readU32LeAsync_le32 h
  obtain ⟨es, hbody, hes⟩ := readExactAsync_ok _ _ ds hds
  refine ⟨es, ?_, hes⟩
  refine bind_eq_ok.mpr ⟨_, hprefix, bind_eq_ok.mpr ⟨(payload, es), ?_, rfl⟩⟩
  rw [UInt32.toNat_ofNat_of_lt' hp, hbody]

/-- A frame is what has been taken from the stream. -/
theorem readTcprosFrame_eq_ok {cs ds : List Bytes} {b : Bytes}
    (h : readTcprosFrame cs = .ok (b, ds)) : cs.flatten = b ++ ds.flatten := by
  obtain ⟨⟨n, cs'⟩, hprefix, h⟩ := bind_eq_ok.mp h
  obtain ⟨⟨body, ds'⟩, hbody, h⟩ := bind_eq_ok.mp h
  cases h
  obtain ⟨⟨bs, es⟩, hbs, hprefix⟩ := bind_eq_ok.mp hprefix
  obtain ⟨⟨m, rest⟩, hn, hprefix⟩ := bind_eq_ok.mp hprefix
  cases hprefix
  obtain ⟨hflat, hlength⟩ := readExactAsync_eq_ok hbs
  obtain rfl := readU32_eq_ok hn
  rw [List.length_append, le32_length, Nat.add_eq_left, List.length_eq_zero_iff] at hlength
  rw [hflat, hlength, List.append_nil, (readExactAsync_eq_ok hbody).1, List.append_assoc]

theorem readTcprosFrame_eof {payload : Bytes} (hp : payload.length < 2 ^ 32) {cs : List Bytes}
    (h : cs.flatten <+: frame payload) (hne : cs.flatten ≠ frame payload) :
    readTcprosFrame cs = .error .unexpectedEof := by
  have hlt : cs.flatten.length < (frame payload).length :=
    lt_of_le_of_ne h.length_le fun hl => hne (h.eq_of_length hl)
  by_cases hshort : cs.flatten.length < 4
  · rw [readTcprosFrame, readU32LeAsync, readExactAsync_eof _ _ hshort]
    rfl
  · obtain ⟨body, hbody⟩ : le32 (.ofNat payload.length) <+: cs.flatten :=
      List.prefix_of_prefix_length_le ⟨payload, rfl⟩ h (by rw [le32_length]; omega)
    obtain ⟨ds, hprefix, hds⟩ := readU32LeAsync_le32 hbody.symm
    have hbodylt : ds.flatten.length < payload.length := by
      have hl := congrArg List.length hbody
      simp only [frame, List.length_append, le32_length] at hlt hl
      rw [hds]
      omega
    rw [readTcprosFrame, hprefix]
    simp only [bind, Except.bind, UInt32.toNat_ofNat_of_lt' hp, readExactAsync_eof _ _ hbodylt]

theorem readTcprosFrames_frames {payloads : List Bytes} (hp : ∀ p ∈ payloads, p.length < 2 ^ 32)
    {cs : List Bytes} {rest : Bytes} (h : cs.flatten = payloads.flatMap frame ++ rest) :
    ∃ ds, readTcprosFrames payloads.length cs = .ok (payloads.map frame, ds) ∧
      ds.flatten = rest := by
  induction payloads generalizing cs with
  | nil => exact ⟨cs, rfl, h⟩
  | cons p payloads ih =>
    rw [List.flatMap_cons, List.append_assoc] at h
    obtain ⟨ds, hframe, hds⟩ := readTcprosFrame_frame (hp p (by simp)) h
    obtain ⟨es, hframes, hes⟩ := ih (fun q hq => hp q (List.mem_cons_of_mem _ hq)) hds
    exact ⟨es, bind_eq_ok.mpr ⟨_, hframe, bind_eq_ok.mpr ⟨_, hframes, rfl⟩⟩, hes⟩

theorem fromAsyncRead_toBytes {T : Type} [Header T] (value : T) {b : Bytes}
    (hb : toBytes value = .ok b) (hsize : b.length < 4 + 2 ^ 32) {cs : List Bytes} {rest : Bytes}
    (h : cs.flatten = b ++ rest) :
    ∃ ds, fromAsyncRead T cs = .ok (value, ds) ∧ ds.flatten = rest := by
  rw [toBytes_eq] at hb
  cases hb
  rw [List.length_append, le32_length, Nat.add_lt_add_iff_left] at hsize
  obtain ⟨ds, hframe, hds⟩ := readTcprosFrame_frame hsize h
  refine ⟨ds, ?_, hds⟩
  simp only [fromAsyncRead, hframe]
  exact bind_eq_ok.mpr ⟨value, fromBytes_bodyOf value hsize, rfl⟩

theorem stream_segmentation {T : Type} [Header T] (value : T) (b : Bytes)
    (hb : toBytes value = .ok b) (hsize : b.length < 4 + 2 ^ 32) (payloads : List Bytes)
    (hp : ∀ p ∈ payloads, p.length < 2 ^ 32) (next rest : Bytes) (hnext : next.length < 2 ^ 32)
    (hrest : rest <+: frame next) (hne : rest ≠ frame next) (cs : List Bytes)
    (hcs : cs.flatten = b ++ (payloads.flatMap frame ++ rest)) :
    ∃ ds, fromAsyncRead T cs = .ok (value, ds) ∧ ds.flatten = payloads.flatMap frame ++ rest ∧
      (∀ i ≤ payloads.length, ∃ es,
        readTcprosFrames i ds = .ok ((payloads.take i).map frame, es) ∧
          es.flatten = (payloads.drop i).flatMap frame ++ rest) ∧
      ∃ es, readTcprosFrames payloads.length ds = .ok (payloads.map frame, es) ∧
        readTcprosFrame es = .error .unexpectedEof := by
  obtain ⟨ds, hhead, hds⟩ := fromAsyncRead_toBytes value hb hsize hcs
  refine ⟨ds, hhead, hds, fun i hi => ?_, ?_⟩
  · rw [← List.take_append_drop i payloads, List.flatMap_append, List.append_assoc] at hds
    have hlen : (payloads.take i).length = i := List.length_take_of_le hi
    have := readTcprosFrames_frames (fun p h => hp p (List.mem_of_mem_take h)) hds
    rwa [hlen] at this
  · obtain ⟨es, hframes, hes⟩ := readTcprosFrames_frames hp hds
    exact ⟨es, hframes, readTcprosFrame_eof hnext (hes ▸ hrest) (hes ▸ hne)⟩

theorem stream_segmentation_tcpNodelay :
    ∃ b ds, toBytes (SubscriberHeader.mk "/sub" "/chatter" "*" "*" "" true) = .ok b ∧
      fromAsyncRead SubscriberHeader [b.take 3, b.drop 3 ++ frame [7], [1]] =
        .ok (⟨"/sub", "/chatter", "*", "*", "", true⟩, ds) ∧ ds.flatten = frame [7] ++ [1] := by
  obtain ⟨b, hb⟩ : ∃ b, toBytes (SubscriberHeader.mk "/sub" "/chatter" "*" "*" "" true) = .ok b :=
    ⟨_, toBytes_eq _⟩
  have hsize : b.length < 4 + 2 ^ 32 := by
    rw [toBytes_eq] at hb
    cases hb
    decide
  obtain ⟨ds, hhead, hds, -⟩ := stream_segmentation _ b hb hsize [[7]] (by decide) [0] [1]
    (by decide) (by decide) (by decide) [b.take 3, b.drop 3 ++ frame [7], [1]]
    (by simp [← List.append_assoc])
  exact ⟨b, ds, hb, hhead, hds⟩

/-! A header whose body is too long for its own length prefix. -/

theorem asBytes_replicate (n : ℕ) :
    (asBytes (String.ofList (List.replicate n 'a'))).length = n := by
  induction n with
  | zero => rfl
  | succ n ih =>
    rw [List.replicate_succ, ← List.singleton_append, String.ofList_append, asBytes_append,
      List.length_append, ih, Nat.add_comm]
    rfl

theorem bodyOf_serviceServerHeader (s : String) :
    bodyOf (ServiceServerHeader.mk s) = frameField ("callerid", s) := by
  simp [bodyOf, encodedFields, Header.fields, Header.toValues, Value.text]

theorem bodyOf_replicate_length (n : ℕ) :
    (bodyOf (ServiceServerHeader.mk (.ofList (List.replicate n 'a')))).length = 13 + n := by
  have hkey : (asBytes ("callerid" ++ "=")).length = 9 := by decide
  rw [bodyOf_serviceServerHeader, frameField, List.length_append, le32_length, asBytes_append,
    List.length_append, hkey, asBytes_replicate]
  omega

theorem fromBytes_frame_nil :
    fromBytes ServiceServerHeader (frame []) = .ok ⟨defaultCallerid⟩ := by
  refine fromBytes_ok.mpr ⟨0, [], [], by decide, by decide, by decide, ⟨?_, ?_, ?_, ?_⟩, ?_⟩
  all_goals simp [Header.fields, Header.toValues, textsOf, FieldHolds]

theorem fromAsyncRead_truncated {value : ServiceServerHeader}
    (h : (bodyOf value).length = 2 ^ 32) : ∃ b ds, toBytes value = .ok b ∧
      fromAsyncRead ServiceServerHeader [b] = .ok (⟨defaultCallerid⟩, ds) := by
  have hb := toBytes_eq value
  have hcs : [le32 (.ofNat (bodyOf value).length) ++ bodyOf value].flatten =
      frame [] ++ bodyOf value := by
    rw [h]
    simp [frame]
  obtain ⟨ds, hframe, -⟩ := readTcprosFrame_frame (by decide) hcs
  refine ⟨_, ds, hb, ?_⟩
  simp only [fromAsyncRead, hframe]
  exact bind_eq_ok.mpr ⟨_, fromBytes_frame_nil, rfl⟩

def longHeader : ServiceServerHeader := ⟨.ofList (List.replicate (2 ^ 32 - 13) 'a')⟩

theorem longHeader_not_read_back : ∃ b ds, toBytes longHeader = .ok b ∧
    fromAsyncRead ServiceServerHeader [b] = .ok (⟨defaultCallerid⟩, ds) ∧
      longHeader ≠ ⟨defaultCallerid⟩ := by
  have hsize : (bodyOf longHeader).length = 2 ^ 32 := bodyOf_replicate_length (2 ^ 32 - 13)
  obtain ⟨b, ds, hb, hread⟩ := fromAsyncRead_truncated hsize
  refine ⟨b, ds, hb, hread, fun h => ?_⟩
  have hl := asBytes_replicate (2 ^ 32 - 13)
  rw [ServiceServerHeader.mk.inj h] at hl
  have hd : (asBytes defaultCallerid).length = 16 := by decide
  omega

end RosrustAsync
