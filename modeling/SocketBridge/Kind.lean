import SocketBridge.Text.Blank

/-!
# Families, socket types and protocols

Three closed enumerations. Each member has a stable code and a canonical name; codes and names
outside the enumeration never convert. A request names a member or the wildcard.
-/

namespace SocketBridge

/-- A number that is no member's code. -/
structure UnknownCode where
  kind : String
  code : Int32
deriving DecidableEq

/-- A text that is no member's name. -/
structure UnknownName where
  kind : String
  name : String
deriving DecidableEq

def UnknownCode.message (e : UnknownCode) : String := s!"unknown {e.kind} code: {e.code.toInt}"

def UnknownName.message (e : UnknownName) : String := s!"unknown {e.kind} name: {e.name}"

/-- A closed enumeration: what it is called, what its canonical names start with, and its members
in the order of their codes. -/
class Enumeration (α : Type) where
  kind : String
  stem : String
  members : List α
  wildcard : α
  code : α → Int32
  short : α → String

namespace Enumeration

variable {α : Type} [Enumeration α]

/-- The canonical name. -/
def name (a : α) : String := stem α ++ short a

def ofCode (α : Type) [Enumeration α] (c : Int32) : Except UnknownCode α :=
  match (members : List α).find? (fun a => code a == c) with
  | some a => .ok a
  | none => .error ⟨kind α, c⟩

/-- Drops the stem once, where the text has it. -/
def dropStem (stem cs : List Char) : List Char :=
  if stem.isPrefixOf cs then cs.drop stem.length else cs

/-- Reads a canonical name with or without its stem, in either case and between blanks. -/
def ofName (α : Type) [Enumeration α] (text : String) : Except UnknownName α :=
  let upper := (Text.trim text.toList).map Char.toUpper
  let bare := dropStem (stem α).toList upper
  match (members : List α).find? (fun a => (short a).toList == bare) with
  | some a => .ok a
  | none => .error ⟨kind α, text⟩

/-- Whether something that is `actual` satisfies a request for `requested`, both given by their
codes. A code outside the enumeration is no actual member and satisfies nothing. -/
def satisfies (α : Type) [Enumeration α] (actual requested : Int32) : Bool :=
  match ofCode α actual with
  | .ok a => requested == code (wildcard : α) || requested == code a
  | .error _ => false

end Enumeration

inductive Family
  | unspec | inet | inet6 | unix
deriving DecidableEq, Repr

inductive SocketType
  | any | stream | dgram | raw | rdm | seqpacket
deriving DecidableEq, Repr

inductive Protocol
  | any | tcp | udp
deriving DecidableEq, Repr

instance : Enumeration Family where
  kind := "family"
  stem := "PF_"
  members := [.unspec, .inet, .inet6, .unix]
  wildcard := .unspec
  code | .unspec => 0 | .inet => 1 | .inet6 => 2 | .unix => 3
  short | .unspec => "UNSPEC" | .inet => "INET" | .inet6 => "INET6" | .unix => "UNIX"

instance : Enumeration SocketType where
  kind := "socket type"
  stem := "SOCK_"
  members := [.any, .stream, .dgram, .raw, .rdm, .seqpacket]
  wildcard := .any
  code | .any => 0 | .stream => 1 | .dgram => 2 | .raw => 3 | .rdm => 4 | .seqpacket => 5
  short
    | .any => "ANY" | .stream => "STREAM" | .dgram => "DGRAM" | .raw => "RAW" | .rdm => "RDM"
    | .seqpacket => "SEQPACKET"

instance : Enumeration Protocol where
  kind := "protocol"
  stem := "IPPROTO_"
  members := [.any, .tcp, .udp]
  wildcard := .any
  code | .any => 0 | .tcp => 1 | .udp => 2
  short | .any => "ANY" | .tcp => "TCP" | .udp => "UDP"

def Family.code (f : Family) : Int32 := Enumeration.code f
def Family.name (f : Family) : String := Enumeration.name f
def SocketType.code (t : SocketType) : Int32 := Enumeration.code t
def SocketType.name (t : SocketType) : String := Enumeration.name t
def Protocol.code (p : Protocol) : Int32 := Enumeration.code p
def Protocol.name (p : Protocol) : String := Enumeration.name p

end SocketBridge
