import SocketBridge.Host
import Std.Net.Addr

/-!
# The host's own words

Socket addresses and errors as the running system has them, turned into those of the library.
-/

namespace SocketBridge

open Std.Net

/-- Sixteen-bit groups of bytes. -/
def bytePairs : List UInt8 → List UInt16
  | a :: b :: r => (a.toUInt16 * 256 + b.toUInt16) :: bytePairs r
  | _ => []

def SocketAddr.toSystem : SocketAddr → SocketAddress
  | v4 o p =>
    let byte (n : Nat) := o.1.getD n 0
    .v4 ⟨.ofParts (byte 0) (byte 1) (byte 2) (byte 3), p⟩
  | v6 o p _ _ =>
    let byte (n : Nat) := (bytePairs o.1).getD n 0
    .v6 ⟨.ofParts (byte 0) (byte 1) (byte 2) (byte 3) (byte 4) (byte 5) (byte 6) (byte 7), p⟩

def Ip.ofSystem : IPAddr → Ip
  | .v4 a => .v4 ⟨a.octets.toList, by simp⟩
  | .v6 a => .v6 ⟨(List.finRange 16).map fun i =>
      let group := a.segments.get ⟨i.1 / 2, by omega⟩
      if i.1 % 2 = 0 then (group / 256).toUInt8 else group.toUInt8, by simp⟩

def SocketAddr.ofSystem (a : SocketAddress) : SocketAddr := .ofIp (.ofSystem a.ipAddr) a.port

/-- The errors that the library knows by number. -/
def OsError.known : List OsError :=
  [notFound, noDevice, invalidArgument, brokenPipe, addressInUse, addressNotAvailable,
    networkUnreachable, connectionReset, connectionRefused]

/-- An error by the number in its text, or else by its text alone. -/
def OsError.ofText (text : String) : OsError :=
  let number := match text.splitOn "error code: " with
    | _ :: rest :: _ => (String.ofList (rest.toList.takeWhile Char.isDigit)).toNat?
    | _ => none
  let code := number.getD 0
  (known.find? (·.code == code)).getD ⟨code, text⟩

end SocketBridge
