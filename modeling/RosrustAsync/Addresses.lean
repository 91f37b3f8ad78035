import Mathlib.Data.Nat.Notation
import RosrustAsync.Network

namespace RosrustAsync

/-! How addresses are written, and what becomes of a host name and a port that are parsed again. -/

namespace IpAddr

def octets (bits : UInt32) : List ℕ :=
  [24, 16, 8, 0].map fun shift => bits.toNat >>> shift % 0x100

def segments (bits : BitVec 128) : List ℕ :=
  [112, 96, 80, 64, 48, 32, 16, 0].map fun shift => bits.toNat >>> shift % 0x10000

def formatOctets (octets : List ℕ) : List Char :=
  ['.'].intercalate (octets.map (Nat.toDigits 10))

def formatSegments (segments : List ℕ) : List Char :=
  [':'].intercalate (segments.map (Nat.toDigits 16))

structure Span where
  start : ℕ
  len : ℕ

/-- The first of the longest runs of zeroes. -/
def zeroes (segments : List ℕ) : Span :=
  let step : Span × Span → ℕ × ℕ → Span × Span := fun (longest, current) (segment, i) =>
    if segment = 0 then
      let current : Span := ⟨if current.len = 0 then i else current.start, current.len + 1⟩
      (if longest.len < current.len then current else longest, current)
    else (longest, ⟨0, 0⟩)
  (segments.zipIdx.foldl step (⟨0, 0⟩, ⟨0, 0⟩)).1

def formatV6 (bits : BitVec 128) : List Char :=
  -- an IPv4 address that is mapped into IPv6 is written as such
  if bits.toNat >>> 32 = 0xffff then
    "::ffff:".toList ++ formatOctets (octets (.ofNat (bits.toNat % 0x100000000)))
  else
    let span := zeroes (segments bits)
    if 1 < span.len then
      formatSegments ((segments bits).take span.start) ++ "::".toList ++
        formatSegments ((segments bits).drop (span.start + span.len))
    else formatSegments (segments bits)

protected def toString : IpAddr → String
  | .v4 bits => .ofList (formatOctets (octets bits))
  | .v6 bits => .ofList (formatV6 bits)

example : (IpAddr.v6 1).toString = "::1" := by decide

example : (IpAddr.v6 0xfe80000000000000000000000000abcd).toString = "fe80::abcd" := by decide

theorem mem_intercalate {sep c : Char} {ls : List (List Char)} (h : c ∈ [sep].intercalate ls) :
    c = sep ∨ ∃ l ∈ ls, c ∈ l := by
  induction ls with
  | nil => simp at h
  | cons l ls ih =>
    cases ls with
    | nil =>
      rw [List.intercalate_singleton] at h
      exact .inr ⟨l, List.mem_cons_self, h⟩
    | cons l' ls =>
      rw [List.intercalate_cons_cons, List.mem_append, List.mem_append] at h
      rcases h with (hl | hsep) | hrest
      · exact .inr ⟨l, List.mem_cons_self, hl⟩
      · exact .inl (List.mem_singleton.mp hsep)
      · obtain hsep | ⟨l'', hl'', hc⟩ := ih hrest
        · exact .inl hsep
        · exact .inr ⟨l'', List.mem_cons_of_mem _ hl'', hc⟩

theorem colon_mem_formatSegments (bits : BitVec 128) : ':' ∈ formatSegments (segments bits) := by
  simp [formatSegments, segments, List.intercalate_cons_cons]

theorem colon_mem_v6 (bits : BitVec 128) : ':' ∈ (IpAddr.v6 bits).toString.toList := by
  simp only [IpAddr.toString, String.toList_ofList, formatV6]
  split
  · simp
  · split
    · simp
    · exact colon_mem_formatSegments bits

theorem v4_digits (bits : UInt32) {c : Char} (h : c ∈ (IpAddr.v4 bits).toString.toList) :
    c.isDigit ∨ c = '.' := by
  simp only [IpAddr.toString, String.toList_ofList, formatOctets] at h
  cases mem_intercalate h with
  | inl hsep => exact .inr hsep
  | inr hdigits =>
    obtain ⟨l, hl, hc⟩ := hdigits
    obtain ⟨octet, -, rfl⟩ := List.mem_map.mp hl
    exact .inl (Nat.isDigit_of_mem_toDigits (by decide) (by decide) hc)

end IpAddr

theorem isDigit_iff {c : Char} : c.isDigit ↔ 48 ≤ c.toNat ∧ c.toNat ≤ 57 := by
  delta Char.isDigit
  simp only [Bool.and_eq_true, decide_eq_true_eq, ge_iff_le, UInt32.le_iff_toNat_le]
  rfl

theorem isAlpha_iff {c : Char} : c.isAlpha ↔
    65 ≤ c.toNat ∧ c.toNat ≤ 90 ∨ 97 ≤ c.toNat ∧ c.toNat ≤ 122 := by
  delta Char.isAlpha Char.isUpper Char.isLower
  simp only [Bool.or_eq_true, Bool.and_eq_true, decide_eq_true_eq, ge_iff_le,
    UInt32.le_iff_toNat_le]
  rfl

theorem toNat_toLower {c : Char} (h : 65 ≤ c.toNat ∧ c.toNat ≤ 90) :
    c.toLower.toNat = c.toNat + 32 := by
  have hval : c.toLower.val = c.val + 32 :=
    congrArg Char.val (dif_pos (show c.val ≥ 'A'.val ∧ c.val ≤ 'Z'.val from h))
  have hnat : (c.val + 32).toNat = (c.toNat + 32) % 2 ^ 32 := UInt32.toNat_add _ _
  calc c.toLower.toNat = (c.val + 32).toNat := congrArg UInt32.toNat hval
    _ = c.toNat + 32 := by rw [hnat]; omega

theorem toLower_of_not_alpha {c : Char} (h : ¬ c.isAlpha) : c.toLower = c := by
  apply dif_neg
  intro hup
  exact h (isAlpha_iff.mpr (.inl hup))

theorem isAlpha_toLower {c : Char} (h : c.isAlpha) : c.toLower.isAlpha := by
  by_cases hup : 65 ≤ c.toNat ∧ c.toNat ≤ 90
  · rw [isAlpha_iff, toNat_toLower hup]
    omega
  · have hid : c.toLower = c := dif_neg hup
    rwa [hid]

def SameHost (host host' : String) : Prop :=
  host.toList.map Char.toLower = host'.toList.map Char.toLower

theorem eq_of_map_toLower {l l' : List Char} (hl : ∀ c ∈ l, ¬ c.isAlpha)
    (h : l.map Char.toLower = l'.map Char.toLower) : l' = l := by
  induction l generalizing l' with
  | nil => exact List.map_eq_nil_iff.mp h.symm
  | cons c l ih =>
    cases l' with
    | nil => simp at h
    | cons c' l' =>
      obtain ⟨hc, hrest⟩ := List.cons.inj h
      have hc' : ¬ c'.isAlpha := by
        intro halpha
        apply hl c List.mem_cons_self
        rw [← toLower_of_not_alpha (hl c List.mem_cons_self), hc]
        exact isAlpha_toLower halpha
      rw [toLower_of_not_alpha hc', toLower_of_not_alpha (hl c List.mem_cons_self)] at hc
      rw [hc, ih (fun d hd => hl d (List.mem_cons_of_mem _ hd)) hrest]

theorem SameHost.eq_v4 {bits : UInt32} {host : String}
    (h : SameHost (IpAddr.v4 bits).toString host) : host = (IpAddr.v4 bits).toString := by
  apply String.toList_inj.mp
  refine eq_of_map_toLower (fun c hc => ?_) h
  obtain hdigit | rfl := IpAddr.v4_digits bits hc
  · rw [isDigit_iff] at hdigit
    rw [isAlpha_iff]
    omega
  · decide

/-! What `url::Url::parse` and the parsing of a socket address are documented to do. -/

/-- A label of a domain name; `aLabel` tells which labels behind `xn--` can be decoded. -/
def IsLabel (aLabel : List Char → Prop) (label : List Char) : Prop :=
  label ≠ [] ∧ (∀ c ∈ label, c.isAlphanum ∨ c = '-' ∨ c = '_') ∧
    ((label.take 4).map Char.toLower = "xn--".toList → aLabel label)

def IsNumber (label : List Char) : Prop :=
  (∀ c ∈ label, c.isDigit) ∨ (label.take 2).map Char.toLower = "0x".toList

def IsDnsName (aLabel : List Char → Prop) (host : String) : Prop :=
  ∃ labels : List (List Char), ∃ last, host.toList = ['.'].intercalate (labels ++ [last]) ∧
    (∀ label ∈ labels ++ [last], IsLabel aLabel label) ∧ ¬ IsNumber last

structure AddressParsers where
  Url : Type
  parse : String → Except UrlParseError Url
  asStr : Url → String
  hostStr : Url → Option String
  portOrKnownDefault : Url → Option UInt16
  socketAddr : String → Option (String × UInt16)
  aLabel : List Char → Prop
  parse_asStr (url : Url) : parse (asStr url) = .ok url
  parse_named {host : String} (scheme : String) (port : UInt16) : scheme ∈ ["http://", "rosrpc://"] →
    IsDnsName aLabel host ∨ (∃ bits, host = (IpAddr.v4 bits).toString) →
      ∃ url host', parse (scheme ++ host ++ ":" ++ toString port.toNat) = .ok url ∧
        hostStr url = some host' ∧ SameHost host' host ∧ portOrKnownDefault url = some port
  parse_bare (scheme : String) (bits : BitVec 128) (port : UInt16) :
    scheme ∈ ["http://", "rosrpc://"] →
      ∃ e, parse (scheme ++ (IpAddr.v6 bits).toString ++ ":" ++ toString port.toNat) = .error e
  socketAddr_named {host : String} (port : UInt16) :
    IsDnsName aLabel host ∨ (∃ bits, host = (IpAddr.v4 bits).toString) →
      socketAddr (host ++ ":" ++ toString port.toNat) = some (host, port)
  socketAddr_bare (bits : BitVec 128) (port : UInt16) :
    socketAddr ((IpAddr.v6 bits).toString ++ ":" ++ toString port.toNat) = none

namespace AddressParsers

variable (P : AddressParsers)

/-- The host names that can be written in a URL as they are. -/
def Named (host : String) : Prop :=
  IsDnsName P.aLabel host ∨ ∃ bits, host = (IpAddr.v4 bits).toString

/-- A URL leads to a port of a host once it is parsed again. -/
def Leads (url : String) (host : String) (port : UInt16) : Prop :=
  ∃ u host', P.parse url = .ok u ∧ P.hostStr u = some host' ∧ SameHost host' host ∧
    P.portOrKnownDefault u = some port

end AddressParsers

end RosrustAsync
