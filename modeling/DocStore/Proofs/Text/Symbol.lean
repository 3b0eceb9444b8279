-- SUMMARY: Bytes are read as the characters of a text exactly if they are the bytes of that text.
import DocStore.Text.Symbol

/-!
# The symbols of a written text

A text is written as UTF-8, and reading these bytes gives its characters back: no byte of it is one
that encodes no character. No other bytes are read as these characters.
-/

namespace DocStore.Symbol

/-- The symbols from a position on are the characters that the bytes from there on encode. -/
theorem ofBytesFrom_eq_map {bytes : ByteArray} (cs : List Char) (steps : Nat) {i : Nat}
    (rest : bytes.extract i bytes.size = cs.utf8Encode) (enough : bytes.size ≤ i + steps) :
    ofBytesFrom bytes steps i = cs.map some := by
  induction cs generalizing steps i with
  | nil =>
    have none_left : bytes.size ≤ i := by
      have size_eq := congrArg ByteArray.size rest
      simp only [ByteArray.size_extract, Nat.min_self, List.utf8Encode_nil,
        ByteArray.size_empty] at size_eq
      omega
    cases steps with
    | zero => rfl
    | succ steps => simp [ofBytesFrom, Nat.not_lt.2 none_left]
  | cons c cs ih =>
    rw [List.utf8Encode_cons, List.utf8Encode_singleton] at rest
    have size_eq := congrArg ByteArray.size rest
    have char_size : (String.utf8EncodeChar c).toByteArray.size = c.utf8Size := by simp
    have char_pos := c.utf8Size_pos
    simp only [ByteArray.size_append, ByteArray.size_extract, char_size, Nat.min_self] at size_eq
    have inside : i < bytes.size := by omega
    have decoded : bytes.utf8DecodeChar? i = some c := by
      rw [ByteArray.utf8DecodeChar?_eq_utf8DecodeChar?_extract, rest]
      exact ByteArray.utf8DecodeChar?_utf8EncodeChar_append
    have later : bytes.extract (i + c.utf8Size) bytes.size = cs.utf8Encode := by
      have dropped := congrArg (fun b => b.extract c.utf8Size (bytes.size - i)) rest
      rw [ByteArray.extract_append_eq_right char_size.symm (by rw [char_size]; exact size_eq)] at dropped
      rw [← dropped, ByteArray.extract_extract, Nat.min_eq_right (by omega)]
    obtain ⟨steps, rfl⟩ : ∃ n, steps = n + 1 := ⟨steps - 1, by omega⟩
    have tail := ih steps later (by omega)
    simp [ofBytesFrom, inside, decoded, tail]

/-- The bytes of a string are read as its characters. -/
theorem ofBytes_toUTF8 (s : String) : ofBytes s.toUTF8 = ofString s := by
  refine ofBytesFrom_eq_map s.toList _ ?_ (by omega)
  rw [ByteArray.extract_zero_size, String.utf8Encode_toList, String.toUTF8_eq_toByteArray]

/-- Bytes that are read as characters only, from a position on, encode these characters. -/
theorem extract_eq_of_ofBytesFrom {bytes : ByteArray} (cs : List Char) (steps : Nat) {i : Nat}
    (read : ofBytesFrom bytes steps i = cs.map some) (enough : bytes.size ≤ i + steps) :
    bytes.extract i bytes.size = cs.utf8Encode := by
  induction steps generalizing cs i with
  | zero =>
    obtain rfl : cs = [] := List.map_eq_nil_iff.1 read.symm
    rw [List.utf8Encode_nil, ByteArray.extract_eq_empty_iff]
    omega
  | succ steps ih =>
    simp only [ofBytesFrom] at read
    split at read
    · split at read
      · rename_i c decoded
        cases cs with
        | nil => cases read
        | cons d cs =>
          obtain ⟨same, later⟩ := List.cons.inj read
          cases same
          have tail := ih cs later (by have := c.utf8Size_pos; omega)
          have inside := ByteArray.le_size_of_utf8DecodeChar?_eq_some decoded
          rw [ByteArray.utf8DecodeChar?_eq_utf8DecodeChar?_extract] at decoded
          have front := ByteArray.eq_of_utf8DecodeChar?_eq_some decoded
          rw [ByteArray.extract_extract, ByteArray.size_extract, Nat.min_self,
            Nat.min_eq_left (by omega), Nat.add_sub_cancel' (by omega), tail] at front
          rw [front, List.utf8Encode_cons, List.utf8Encode_singleton]
      -- A byte that is part of no character is no character that was read.
      · cases cs with
        | nil => cases read
        | cons d cs => cases (List.cons.inj read).1
    · obtain rfl : cs = [] := List.map_eq_nil_iff.1 read.symm
      rw [List.utf8Encode_nil, ByteArray.extract_eq_empty_iff]
      omega

/-- Bytes are read as the characters of a string exactly if they are its bytes. -/
theorem ofBytes_eq_ofString {bytes : ByteArray} {s : String} :
    ofBytes bytes = ofString s ↔ bytes = s.toUTF8 := by
  constructor
  · intro read
    have encoded := extract_eq_of_ofBytesFrom s.toList bytes.size read (by omega)
    rwa [ByteArray.extract_zero_size, String.utf8Encode_toList] at encoded
  · rintro rfl
    exact ofBytes_toUTF8 s

end DocStore.Symbol
