import RosrustAsync.Addresses
import RosrustAsync.Lib.Text
import RosrustAsync.SubscriberActor

namespace RosrustAsync

open Actor Prog

/-! The endpoints that a node hands out, and whether they lead back to it. -/

section Endpoints

variable (P : AddressParsers)

structure NodeState where
  hostname : String
  address : SocketAddr
  apiUrl : P.Url

/-- The URLs of `Node::new`; `none` where its `unwrap` panics. -/
def NodeState.new (hostname : String) (bindAddress : SocketAddr) : Option (NodeState P) :=
  match P.parse ("http://" ++ hostname ++ ":" ++ toString bindAddress.port.toNat) with
  | .ok apiUrl => some ⟨hostname, bindAddress, apiUrl⟩
  | .error _ => none

/-- The answer of `RequestTopicHandler`, by the address of the publication if there is one. -/
def NodeState.requestTopic {P : AddressParsers} (self : NodeState P) (topicName : String) :
    Option SocketAddr → Except ApiError (String × String × String × Int32)
  | some address =>
    .ok ("ready on " ++ self.hostname ++ ":" ++ toString address.port.toNat, "TCPROS",
      self.hostname, .ofNat address.port.toNat)
  | none => .error (.invalidRequest
      ("Node is not currently publishing to topic \"" ++ topicName ++ "\""))

def serviceUrl (boundAddr : SocketAddr) : Except UrlParseError P.Url :=
  P.parse ("rosrpc://" ++ boundAddr.ip.toString ++ ":" ++ toString boundAddr.port.toNat)

end Endpoints

def channelAddr (info : String × String × Int32) : String := info.2.1 ++ ":" ++ toString info.2.2

theorem SubscriberActor.getPublisherChannel_eq (callerId topicName publisherAddr : String) :
    getPublisherChannel callerId topicName publisherAddr = do
      ofExcept ((← call (SubscriberCall.parseUrl publisherAddr)).mapError .urlParse)
      let protocolInfo ← ofExcept ((← call (SubscriberCall.requestTopic publisherAddr
        callerId topicName [["TCPROS"]])).mapError .slaveClient)
      return protocolInfo.map channelAddr := rfl

theorem toString_port (port : UInt16) :
    toString (Int32.ofNat port.toNat) = toString port.toNat := by
  have h : (Int32.ofNat port.toNat).toInt = port.toNat := by
    apply Int32.toInt_ofNat_of_lt
    have := port.toNat_lt
    omega
  change toString (Int32.ofNat port.toNat).toInt = _
  rw [h]
  rfl

/-- Each endpoint of a node leads back to the host name it is configured with, whatever ports its
publications and services are bound to. -/
structure Usable (P : AddressParsers) (node : NodeState P) : Prop where
  api : P.Leads (P.asStr node.apiUrl) node.hostname node.address.port
  topic : ∀ topicName port, ∃ message host,
    node.requestTopic topicName (some ⟨node.address.ip, port⟩) =
      .ok (message, "TCPROS", host, .ofNat port.toNat) ∧ SameHost host node.hostname ∧
        ∃ host', P.socketAddr (channelAddr ("TCPROS", host, .ofNat port.toNat)) =
          some (host', port) ∧ SameHost host' node.hostname
  service : ∀ port, ∃ url, serviceUrl P ⟨node.address.ip, port⟩ = .ok url ∧
    P.Leads (P.asStr url) node.hostname port

section Usable

variable {P : AddressParsers} {hostname : String} {bindAddress : SocketAddr}

theorem leads_of_named {host : String} (scheme : String) (port : UInt16)
    (hscheme : scheme ∈ ["http://", "rosrpc://"]) (h : P.Named host) :
    ∃ url, P.parse (scheme ++ host ++ ":" ++ toString port.toNat) = .ok url ∧
      P.Leads (P.asStr url) host port := by
  obtain ⟨url, host', hparse, hhost, hsame, hport⟩ := P.parse_named scheme port hscheme h
  exact ⟨url, hparse, url, host', P.parse_asStr url, hhost, hsame, hport⟩

theorem new_of_named (h : P.Named hostname) (bindAddress : SocketAddr) :
    ∃ node, NodeState.new P hostname bindAddress = some node ∧ node.hostname = hostname ∧
      node.address = bindAddress ∧ P.Leads (P.asStr node.apiUrl) hostname bindAddress.port := by
  obtain ⟨url, hparse, hleads⟩ := leads_of_named "http://" bindAddress.port (by simp) h
  refine ⟨⟨hostname, bindAddress, url⟩, ?_, rfl, rfl, hleads⟩
  simp only [NodeState.new, hparse]

theorem new_of_v6 (bits : BitVec 128) :
    NodeState.new P (IpAddr.v6 bits).toString bindAddress = none := by
  obtain ⟨e, hparse⟩ := P.parse_bare "http://" bits bindAddress.port (by simp)
  simp only [NodeState.new, hparse]

theorem requestTopic_of_named {node : NodeState P} (h : P.Named node.hostname) (topicName : String)
    (ip : IpAddr) (port : UInt16) : ∃ message host,
      node.requestTopic topicName (some ⟨ip, port⟩) =
        .ok (message, "TCPROS", host, .ofNat port.toNat) ∧ SameHost host node.hostname ∧
          ∃ host', P.socketAddr (channelAddr ("TCPROS", host, .ofNat port.toNat)) =
            some (host', port) ∧ SameHost host' node.hostname := by
  refine ⟨_, _, rfl, rfl, node.hostname, ?_, rfl⟩
  rw [channelAddr, toString_port]
  exact P.socketAddr_named port h

theorem channelAddr_of_v6 {node : NodeState P} {bits : BitVec 128}
    (h : node.hostname = (IpAddr.v6 bits).toString) (port : UInt16) :
    P.socketAddr (channelAddr ("TCPROS", node.hostname, .ofNat port.toNat)) = none := by
  rw [channelAddr, toString_port, h]
  exact P.socketAddr_bare bits port

/-- The URL of a service leads to the address that the node is bound to, which is the host name
only if that is the text of an IPv4 address. -/
theorem serviceUrl_leads_iff {ip : IpAddr} {port : UInt16} :
    (∃ url, serviceUrl P ⟨ip, port⟩ = .ok url ∧ P.Leads (P.asStr url) hostname port) ↔
      ∃ bits, ip = .v4 bits ∧ hostname = (IpAddr.v4 bits).toString := by
  constructor
  · rintro ⟨url, hparse, u, host, hu, hhost, hsame, -⟩
    rw [P.parse_asStr] at hu
    cases hu
    cases ip with
    | v4 bits =>
      obtain ⟨url', host', hparse', hhost', hsame', -⟩ :=
        P.parse_named "rosrpc://" port (by simp) (.inr ⟨bits, rfl⟩)
      rw [serviceUrl, hparse'] at hparse
      cases hparse
      rw [hhost'] at hhost
      cases hhost
      exact ⟨bits, rfl, SameHost.eq_v4 (hsame'.symm.trans hsame)⟩
    | v6 bits =>
      obtain ⟨e, herror⟩ := P.parse_bare "rosrpc://" bits port (by simp)
      rw [serviceUrl, herror] at hparse
      cases hparse
  · rintro ⟨bits, rfl, rfl⟩
    exact leads_of_named "rosrpc://" port (by simp) (.inr ⟨bits, rfl⟩)

theorem bound_of_usable {node : NodeState P} (hnew : NodeState.new P hostname bindAddress = some node)
    (h : Usable P node) :
    ∃ bits, bindAddress.ip = .v4 bits ∧ hostname = (IpAddr.v4 bits).toString := by
  have hnode : node.hostname = hostname ∧ node.address = bindAddress := by
    unfold NodeState.new at hnew
    split at hnew
    · cases hnew
      exact ⟨rfl, rfl⟩
    · cases hnew
  have hservice := serviceUrl_leads_iff.mp (h.service 0)
  rwa [hnode.1, hnode.2] at hservice

end Usable

/-! Parsers that take a host and a port around the first colon. -/

namespace AddressParsers

def splitPort (s : String) : Option (String × UInt16) := do
  let (host, port) ← splitOnce ':' s
  if port.toList.all Char.isDigit then some (host, .ofNat (Nat.ofDigitChars 10 port.toList 0))
  else none

def splitUrl (s : String) : Option (String × UInt16) :=
  if "http://".toList <+: s.toList then splitPort (.ofList (s.toList.drop 7))
  else if "rosrpc://".toList <+: s.toList then splitPort (.ofList (s.toList.drop 9))
  else none

theorem splitUrl_scheme {scheme : String} (hscheme : scheme ∈ ["http://", "rosrpc://"])
    (rest : String) : splitUrl (scheme ++ rest) = splitPort rest := by
  simp only [List.mem_cons, List.not_mem_nil, or_false] at hscheme
  rcases hscheme with rfl | rfl <;> simp [splitUrl]

theorem colon_not_mem {aLabel : List Char → Prop} {host : String}
    (h : IsDnsName aLabel host ∨ ∃ bits, host = (IpAddr.v4 bits).toString) : ':' ∉ host.toList := by
  intro hmem
  rcases h with ⟨labels, last, hhost, hlabels, -⟩ | ⟨bits, rfl⟩
  · rw [hhost] at hmem
    obtain hsep | ⟨label, hlabel, hc⟩ := IpAddr.mem_intercalate hmem
    · simp at hsep
    · obtain ⟨-, hchars, -⟩ := hlabels label hlabel
      exact absurd (hchars ':' hc) (by decide)
  · exact absurd (IpAddr.v4_digits bits hmem) (by decide)

theorem splitPort_named {aLabel : List Char → Prop} {host : String} (port : UInt16)
    (h : IsDnsName aLabel host ∨ ∃ bits, host = (IpAddr.v4 bits).toString) :
    splitPort (host ++ ":" ++ toString port.toNat) = some (host, port) := by
  have hsplit : splitOnce ':' (host ++ ":" ++ toString port.toNat) =
      some (host, toString port.toNat) := splitOnce_eq_some.mpr ⟨rfl, colon_not_mem h⟩
  have hdigits : (toString port.toNat).toList = Nat.toDigits 10 port.toNat := Nat.toList_repr
  have hall : (Nat.toDigits 10 port.toNat).all Char.isDigit := by
    rw [List.all_eq_true]
    intro c hc
    exact Nat.isDigit_of_mem_toDigits (by decide) (by decide) hc
  rw [splitPort, hsplit]
  change (if (toString port.toNat).toList.all Char.isDigit then _ else _) = _
  rw [hdigits, if_pos hall, Nat.ofDigitChars_ten_toDigits, UInt16.ofNat_toNat]

theorem splitPort_bare (bits : BitVec 128) (port : UInt16) :
    splitPort ((IpAddr.v6 bits).toString ++ ":" ++ toString port.toNat) = none := by
  unfold splitPort
  cases hsplit : splitOnce ':' ((IpAddr.v6 bits).toString ++ ":" ++ toString port.toNat) with
  | none => rfl
  | some r =>
    obtain ⟨k, v⟩ := r
    obtain ⟨heq, hk⟩ := splitOnce_eq_some.mp hsplit
    -- the address has a colon of its own, so that one is left behind the first
    have hcount := congrArg (fun s : String => s.toList.count ':') heq
    have hcolon : 0 < (IpAddr.v6 bits).toString.toList.count ':' :=
      List.count_pos_iff.mpr (IpAddr.colon_mem_v6 bits)
    have hv : ':' ∈ v.toList := by
      apply List.count_pos_iff.mp
      simp [List.count_eq_zero.mpr hk] at hcount
      omega
    have hall : ¬ v.toList.all Char.isDigit := by
      intro hall
      exact absurd (List.all_eq_true.mp hall ':' hv) (by decide)
    exact if_neg hall

def plain : AddressParsers where
  Url := { s : String // (splitUrl s).isSome }
  parse s := if h : (splitUrl s).isSome then .ok ⟨s, h⟩ else .error ⟨"invalid host or port"⟩
  asStr := Subtype.val
  hostStr url := (splitUrl url.val).map Prod.fst
  portOrKnownDefault url := (splitUrl url.val).map Prod.snd
  socketAddr := splitPort
  aLabel _ := False
  parse_asStr url := dif_pos url.property
  parse_named {host} scheme port hscheme h := by
    have hsplit : splitUrl (scheme ++ host ++ ":" ++ toString port.toNat) = some (host, port) := by
      rw [String.append_assoc, String.append_assoc, splitUrl_scheme hscheme, ← String.append_assoc,
        splitPort_named port h]
    have hsome : (splitUrl (scheme ++ host ++ ":" ++ toString port.toNat)).isSome := by rw [hsplit]; rfl
    exact ⟨⟨_, hsome⟩, host, dif_pos hsome, by rw [hsplit]; rfl, rfl, by rw [hsplit]; rfl⟩
  parse_bare scheme bits port hscheme := by
    have hnone : splitUrl (scheme ++ (IpAddr.v6 bits).toString ++ ":" ++ toString port.toNat) =
        none := by
      rw [String.append_assoc, String.append_assoc, splitUrl_scheme hscheme, ← String.append_assoc,
        splitPort_bare]
    exact ⟨_, dif_neg (by rw [hnone]; exact Bool.false_ne_true)⟩
  socketAddr_named port h := splitPort_named port h
  socketAddr_bare := splitPort_bare

end AddressParsers

theorem endpoints_usable_iff (P : AddressParsers) (hostname : String) (bindAddress : SocketAddr) :
    (∃ node, NodeState.new P hostname bindAddress = some node ∧ Usable P node) ↔
      ∃ bits, bindAddress.ip = .v4 bits ∧ hostname = (IpAddr.v4 bits).toString := by
  constructor
  · rintro ⟨node, hnew, h⟩
    exact bound_of_usable hnew h
  · rintro ⟨bits, hip, hhost⟩
    have hnamed : P.Named hostname := .inr ⟨bits, hhost⟩
    obtain ⟨node, hnew, rfl, rfl, hapi⟩ := new_of_named hnamed bindAddress
    refine ⟨node, hnew, hapi, fun topicName port => ?_, fun port => ?_⟩
    · exact requestTopic_of_named hnamed topicName _ port
    · exact serviceUrl_leads_iff.mpr ⟨bits, hip, hhost⟩

theorem endpoints_usable_loopback : ∃ node, NodeState.new AddressParsers.plain
    (IpAddr.v4 0x7f000001).toString ⟨.v4 0x7f000001, 11411⟩ = some node ∧ Usable _ node :=
  (endpoints_usable_iff AddressParsers.plain _ _).mpr ⟨0x7f000001, rfl, rfl⟩

theorem turtle_dnsName (aLabel : List Char → Prop) : IsDnsName aLabel "turtle" := by
  have hall : ['t', 'u', 'r', 't', 'l', 'e'].all Char.isAlphanum := rfl
  refine ⟨[], ['t', 'u', 'r', 't', 'l', 'e'], rfl, ?_, ?_⟩
  · intro label hlabel
    obtain rfl : label = ['t', 'u', 'r', 't', 'l', 'e'] := by simpa using hlabel
    refine ⟨List.cons_ne_nil _ _, fun c hc => .inl (List.all_eq_true.mp hall c hc), ?_⟩
    intro h
    cases h
  · rintro (h | h)
    · exact absurd (h 't' List.mem_cons_self) Bool.false_ne_true
    · cases h

theorem endpoints_unusable :
    NodeState.new AddressParsers.plain (IpAddr.v6 1).toString ⟨.v6 1, 11411⟩ = none ∧
    (IsDnsName AddressParsers.plain.aLabel "turtle" ∧
      ∃ node, NodeState.new AddressParsers.plain "turtle" ⟨.v4 0, 11411⟩ = some node ∧
        ¬ Usable _ node) ∧
    ∃ node, NodeState.new AddressParsers.plain (IpAddr.v4 0xc0a86406).toString ⟨.v4 0, 11411⟩ =
      some node ∧ ¬ Usable _ node := by
  refine ⟨new_of_v6 1, ⟨turtle_dnsName _, ?_⟩, ?_⟩
  · obtain ⟨node, hnew, -⟩ :=
      new_of_named (.inl (turtle_dnsName AddressParsers.plain.aLabel)) ⟨.v4 0, 11411⟩
    refine ⟨node, hnew, fun h => ?_⟩
    obtain ⟨bits, hip, hhost⟩ := bound_of_usable hnew h
    cases hip
    exact absurd hhost (by decide)
  · obtain ⟨node, hnew, -⟩ := new_of_named (P := AddressParsers.plain)
      (.inr ⟨0xc0a86406, rfl⟩) ⟨.v4 0, 11411⟩
    refine ⟨node, hnew, fun h => ?_⟩
    obtain ⟨bits, hip, hhost⟩ := bound_of_usable hnew h
    cases hip
    exact absurd hhost (by decide)

end RosrustAsync
