import Mathlib
import SocketBridge.Decoder
import SocketBridge.Proofs.Text.Utf8

/-!
# Decoding text

The text decoder in terms of what reading its bytes gives, the bytes that it refuses and those that
it holds back, and errors told by their messages.
-/

namespace SocketBridge

namespace DecodeError

variable (n : Nat)

theorem message_invalidUtf8 :
    (invalidUtf8 n).message = "invalid UTF-8 sequence at byte " ++ n.repr := rfl

theorem message_bufferFull :
    (bufferFull n).message = "read buffer full with " ++ n.repr ++ " undecodable bytes" := rfl

theorem message_trailing :
    (trailing n).message = "stream ended with " ++ n.repr ++ " undecoded bytes" := rfl

/-- The first letter of a message tells what kind of error it is. -/
theorem head_message (e : DecodeError) : e.message.toList.head? =
    some (match e with | invalidUtf8 _ => 'i' | bufferFull _ => 'r' | trailing _ => 's') := by
  cases e with
  | invalidUtf8 n =>
    rw [message_invalidUtf8, String.toList_append]
    simp
  | bufferFull n =>
    rw [message_bufferFull, String.toList_append, String.toList_append]
    simp
  | trailing n =>
    rw [message_trailing, String.toList_append, String.toList_append]
    simp

/-- Messages tell errors apart, with the numbers in them. -/
theorem message_injective : Function.Injective message := by
  intro e e' same
  have heads := congrArg (fun text => text.toList.head?) same
  simp only [head_message] at heads
  cases e with
  | invalidUtf8 n =>
    cases e' with
    | invalidUtf8 m =>
      rw [message_invalidUtf8, message_invalidUtf8, String.append_right_inj, Nat.repr_inj] at same
      rw [same]
    | _ => simp at heads
  | bufferFull n =>
    cases e' with
    | bufferFull m =>
      rw [message_bufferFull, message_bufferFull, String.append_left_inj, String.append_right_inj,
        Nat.repr_inj] at same
      rw [same]
    | _ => simp at heads
  | trailing n =>
    cases e' with
    | trailing m =>
      rw [message_trailing, message_trailing, String.append_left_inj, String.append_right_inj,
        Nat.repr_inj] at same
      rw [same]
    | _ => simp at heads

end DecodeError

namespace Decoder

open Utf8

variable (shown : List (List UInt8)) (filled : List UInt8)

theorem text_of_invalid (invalid : (scan filled).ending = .invalid) :
    text.decode shown filled = .error (.invalidUtf8 (encode (scan filled).chars).length) := by
  have length := congrArg List.length (scan_spec filled).1
  rw [List.length_append] at length
  have offset : filled.length - (scan filled).rest.length
      = (encode (scan filled).chars).length := by
    omega
  simp only [text, invalid, offset]

theorem text_of_valid (valid : (scan filled).ending ≠ .invalid) :
    text.decode shown filled =
      .ok (String.ofList (scan filled).chars, (encode (scan filled).chars).length) := by
  have length := congrArg List.length (scan_spec filled).1
  rw [List.length_append] at length
  have consumed : filled.length - (scan filled).rest.length
      = (encode (scan filled).chars).length := by
    omega
  simp only [text, consumed]

theorem text_eq_error_iff {e : DecodeError} : text.decode shown filled = .error e ↔
    (scan filled).ending = .invalid ∧ e = .invalidUtf8 (encode (scan filled).chars).length := by
  by_cases invalid : (scan filled).ending = .invalid
  · rw [text_of_invalid shown filled invalid]
    simp [invalid, eq_comm]
  · rw [text_of_valid shown filled invalid]
    simp [invalid]

theorem text_eq_ok_iff {s : String} {consumed : Nat} :
    text.decode shown filled = .ok (s, consumed) ↔ (scan filled).ending ≠ .invalid ∧
      s = String.ofList (scan filled).chars ∧ consumed = (encode (scan filled).chars).length := by
  by_cases invalid : (scan filled).ending = .invalid
  · rw [text_of_invalid shown filled invalid]
    simp [invalid]
  · rw [text_of_valid shown filled invalid]
    simp [invalid, eq_comm]

/-- Text is refused exactly if no bytes that may still come make it a text, and the error tells where
its longest valid part ends. Otherwise that part is given, and what is held back is less than one
character: the beginning of some character, and nothing at all just if there is nothing to wait
for. -/
theorem text_refused_iff_hopeless :
    ((∃ e, text.decode shown filled = .error e) ↔ ∀ more, ¬ IsText (filled ++ more)) ∧
    (∀ e, text.decode shown filled = .error e →
      ∃ front, IsLongestText front filled ∧ e = .invalidUtf8 front.length) ∧
    ∀ s consumed, text.decode shown filled = .ok (s, consumed) →
      (IsLongestText (bytesOf s) filled ∧ consumed = (bytesOf s).length) ∧
      (filled.drop consumed).length ≤ 3 ∧
      (∃ c more, more ≠ [] ∧ String.utf8EncodeChar c = filled.drop consumed ++ more) ∧
      (filled.drop consumed = [] ↔ IsText filled) := by
  refine ⟨?_, ?_, ?_⟩
  · rw [← not_exists, exists_isText_append_iff, not_not]
    simp only [text_eq_error_iff, exists_and_left, exists_eq, and_true]
  · intro e failed
    obtain ⟨-, rfl⟩ := (text_eq_error_iff shown filled).mp failed
    exact ⟨_, isLongestText_scan filled, rfl⟩
  · intro s consumed decoded
    obtain ⟨valid, rfl, rfl⟩ := (text_eq_ok_iff shown filled).mp decoded
    have held : (encode (scan filled).chars ++ (scan filled).rest).drop
        (encode (scan filled).chars).length = (scan filled).rest := List.drop_left
    rw [(scan_spec filled).1] at held
    rw [bytesOf_ofList, held]
    exact ⟨⟨isLongestText_scan filled, rfl⟩, length_rest_le valid, exists_char_of_rest valid,
      rest_eq_nil_iff valid⟩

/-- Two bytes may still become a character where the second is not that of a surrogate. -/
example : text.decode [] [0x61, 0xED, 0x9F] = .ok ("a", 1) ∧
    text.decode [] [0x61, 0xED, 0xA0] = .error (.invalidUtf8 1) := by
  constructor <;> cbv

end Decoder

end SocketBridge
