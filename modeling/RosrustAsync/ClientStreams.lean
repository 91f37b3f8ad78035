import RosrustAsync.ClientLink
import RosrustAsync.Lib.Slots

namespace RosrustAsync

namespace TcpStream

variable {self stream : TcpStream}

theorem readU8_eq {code : Except IoError UInt8} (h : self.readU8 = some (code, stream)) :
    (∃ b rest, self.unread = b :: rest ∧ code = .ok b ∧
      stream = { self with read := self.read + 1 }) ∨
    ∃ e, code = .error e ∧ stream = self := by
  unfold readU8 at h
  split at h
  · cases h
    exact .inl ⟨_, _, ‹_›, rfl, rfl⟩
  · split at h <;> cases h
    exact .inr ⟨_, rfl, rfl⟩

theorem readFrame_eq {frame : Except IoError Bytes} (h : self.readFrame = some (frame, stream)) :
    (∃ b rest, self.unread = b ++ rest ∧ frame = .ok b ∧
      stream = { self with read := self.read + b.length }) ∨
    ∃ e, frame = .error e ∧ stream = { self with read := self.fromServer.length } := by
  unfold readFrame at h
  split at h
  · rename_i b ds hread
    cases h
    have hflat := readTcprosFrame_eq_ok hread
    rw [List.flatten_singleton] at hflat
    exact .inl ⟨b, _, hflat, rfl, rfl⟩
  · split at h <;> cases h
    exact .inr ⟨_, rfl, rfl⟩

theorem read_le {b rest : Bytes} (h : self.unread = b ++ rest)
    (hle : self.read ≤ self.fromServer.length) : self.read + b.length ≤ self.fromServer.length := by
  have hlength := congrArg List.length h
  rw [unread, List.length_drop, List.length_append] at hlength
  omega

end TcpStream

structure Evolves (l l' : List TcpStream) : Prop where
  length : l.length ≤ l'.length
  stream : ∀ i stream', l'[i]? = some stream' →
    (∃ stream, l[i]? = some stream ∧ stream'.fromServer = stream.fromServer ∧
      (stream.read ≤ stream.fromServer.length → stream'.read ≤ stream'.fromServer.length)) ∨
    l.length ≤ i ∧ stream'.fromServer = [] ∧ stream'.read ≤ stream'.fromServer.length

namespace Evolves

variable {l l' : List TcpStream}

theorem refl (l : List TcpStream) : Evolves l l :=
  ⟨le_rfl, fun _ stream h => .inl ⟨stream, h, rfl, id⟩⟩

theorem append (l : List TcpStream) : Evolves l (l ++ [.connected]) := by
  refine ⟨by rw [List.length_append]; omega, fun i stream' h => ?_⟩
  rcases getElem?_concat_cases h with h | ⟨hi, rfl⟩
  · exact .inl ⟨stream', h, rfl, id⟩
  · exact .inr ⟨hi.ge, rfl, le_rfl⟩

theorem modify (h : Evolves l l') (i : ℕ) {f : TcpStream → TcpStream}
    (hf : ∀ stream, l'[i]? = some stream → (f stream).fromServer = stream.fromServer ∧
      (stream.read ≤ stream.fromServer.length → (f stream).read ≤ stream.fromServer.length)) :
    Evolves l (l'.modify i f) := by
  refine ⟨by rw [List.length_modify]; exact h.length, fun j stream' hj => ?_⟩
  by_cases hij : i = j
  · subst hij
    rw [List.getElem?_modify_eq] at hj
    obtain ⟨stream, hs, rfl⟩ := Option.map_eq_some_iff.mp hj
    obtain ⟨hfrom, hread⟩ := hf stream hs
    rw [hfrom]
    rcases h.stream i stream hs with ⟨stream₀, h₀, hfrom₀, hle⟩ | ⟨hlen, hempty, hle⟩
    · exact .inl ⟨stream₀, h₀, hfrom₀, fun hr => hread (hle hr)⟩
    · exact .inr ⟨hlen, hempty, hread hle⟩
  · rw [List.getElem?_modify_ne f l' hij] at hj
    exact h.stream j stream' hj

end Evolves

namespace ClientLink

variable {decodeString : Bytes → Except IoError String} {link link' : ClientLink}
  {l : List TcpStream}

theorem close_evolves (h : Evolves l link.streams) (i : ℕ) : Evolves l (link.close i).streams :=
  h.modify i fun _ _ => ⟨rfl, id⟩

theorem endRpc_evolves (h : Evolves l link.streams) (msg : RpcMsg) (connection : ConnectionState)
    (result : Except ClientLinkError Bytes) :
    Evolves l (link.endRpc msg connection result).streams := by
  unfold endRpc
  split
  · exact h
  · exact close_evolves h _

theorem wrote_evolves (h : Evolves l link.streams) {result : Except IoError Unit}
    (hw : link.wrote result = some link') : Evolves l link'.streams := by
  unfold wrote at hw
  split at hw <;> cases hw
  · exact h
  · exact h
  · exact h
  · exact close_evolves h _
  · exact close_evolves h _
  · exact endRpc_evolves h _ _ _

theorem receivedFrame_evolves (h : Evolves l link.streams) {frame : Except IoError Bytes}
    (hr : link.receivedFrame decodeString frame = some link') : Evolves l link'.streams := by
  unfold receivedFrame at hr
  split at hr
  · split at hr <;> cases hr <;> exact close_evolves h _
  · split at hr <;> cases hr
    · exact h
    · exact close_evolves h _
  · cases hr
    exact endRpc_evolves h _ _ _
  · cases hr
    exact endRpc_evolves h _ _ _
  · cases hr

theorem receivedStatus_evolves (h : Evolves l link.streams) (msg : RpcMsg)
    (connection : ConnectionState) (code : Except IoError UInt8) :
    Evolves l (link.receivedStatus msg connection code).streams := by
  unfold receivedStatus
  split
  · split
    · exact h
    · split
      · exact h
      · exact endRpc_evolves h _ _ _
  · exact endRpc_evolves h _ _ _

theorem step_evolves {label : Label} (h : link.step decodeString label = some link') :
    Evolves link.streams link'.streams := by
  have hrefl := Evolves.refl link.streams
  cases label with
  | call data | recv =>
    simp only [step] at h
    split at h <;> cases h <;> exact hrefl
  | resolve serviceUrl parse addrs =>
    simp only [step] at h
    split at h
    · split at h <;> cases h <;> exact hrefl
    · cases h
  | connect result =>
    cases result <;> simp only [step] at h <;> split at h <;> cases h <;>
      first | exact hrefl | exact Evolves.append _
  | cancelled =>
    simp only [step] at h
    split at h
    · cases h
      cases link.connectionState with
      | none => exact hrefl
      | some connection => exact close_evolves hrefl _
    · cases h
  | write =>
    obtain ⟨⟨i, bytes⟩, -, h⟩ := Option.bind_eq_some_iff.mp h
    refine wrote_evolves ?_ h
    exact hrefl.modify i fun _ _ => ⟨rfl, id⟩
  | writeError error torn =>
    obtain ⟨⟨i, bytes⟩, -, h⟩ := Option.bind_eq_some_iff.mp h
    refine wrote_evolves ?_ h
    exact hrefl.modify i fun _ _ => ⟨rfl, id⟩
  | read =>
    obtain ⟨i, -, h⟩ := Option.bind_eq_some_iff.mp h
    obtain ⟨stream, hs, h⟩ := Option.bind_eq_some_iff.mp h
    split at h
    · obtain ⟨⟨code, stream'⟩, hread, h⟩ := Option.bind_eq_some_iff.mp h
      cases h
      refine receivedStatus_evolves (hrefl.modify i fun stream₀ hs₀ => ?_) _ _ _
      obtain rfl := Option.some.inj (hs.symm.trans hs₀)
      rcases TcpStream.readU8_eq hread with ⟨b, rest, hun, -, rfl⟩ | ⟨e, -, rfl⟩
      · exact ⟨rfl, TcpStream.read_le (b := [b]) hun⟩
      · exact ⟨rfl, id⟩
    · obtain ⟨⟨frame, stream'⟩, hread, h⟩ := Option.bind_eq_some_iff.mp h
      refine receivedFrame_evolves (hrefl.modify i fun stream₀ hs₀ => ?_) h
      obtain rfl := Option.some.inj (hs.symm.trans hs₀)
      rcases TcpStream.readFrame_eq hread with ⟨b, rest, hun, -, rfl⟩ | ⟨e, -, rfl⟩
      · exact ⟨rfl, TcpStream.read_le hun⟩
      · exact ⟨rfl, fun _ => le_rfl⟩
  | readError error torn =>
    obtain ⟨i, -, h⟩ := Option.bind_eq_some_iff.mp h
    have hread := hrefl.modify i (f := fun stream =>
      { stream with read := min (stream.read + torn) stream.fromServer.length })
      fun stream _ => ⟨rfl, fun _ => min_le_right _ _⟩
    simp only at h
    split at h
    · cases h
      exact receivedStatus_evolves hread _ _ _
    · exact receivedFrame_evolves hread h

end ClientLink

end RosrustAsync
