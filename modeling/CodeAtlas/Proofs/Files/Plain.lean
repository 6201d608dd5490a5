import CodeAtlas.Files.Decode
import CodeAtlas.Proofs.Document.Characters

set_option autoImplicit false

/-! Text in the characters that documents are written with: its bytes are read as the same text. -/

namespace CodeAtlas.Files

open CodeAtlas.Document

theorem toList_loop (bytes : ByteArray) (index : Nat) (taken : List UInt8) :
    ByteArray.toList.loop bytes index taken =
      taken.reverse ++ bytes.data.toList.drop index := by
  fun_induction ByteArray.toList.loop bytes index taken with
  | case1 index taken within ih =>
    have inside : index < bytes.data.toList.length := within
    rw [ih, List.drop_eq_getElem_cons inside, List.reverse_cons, List.append_assoc,
      List.singleton_append]
    simp [ByteArray.get!, getElem!_pos bytes.data index within]
  | case2 index taken beyond =>
    rw [List.drop_eq_nil_of_le (Nat.not_lt.mp beyond), List.append_nil]

theorem toList_toUTF8 (chars : List Char) :
    (String.ofList chars).toUTF8.toList = chars.flatMap String.utf8EncodeChar := by
  rw [ByteArray.toList, toList_loop, String.toUTF8_eq_toByteArray, String.toByteArray_ofList]
  exact List.toList_data_toByteArray

theorem toNat_lt_of_isWritten {c : Char} (written : isWritten c = true) : c.toNat < 128 := by
  simp only [isWritten, Bool.or_eq_true, Bool.and_eq_true, decide_eq_true_eq] at written
  obtain rfl | visible := written
  · decide
  · omega

theorem encodeChar_written {c : Char} (written : isWritten c = true) :
    String.utf8EncodeChar c = [UInt8.ofNat c.toNat] := by
  have small : c.val.toNat ≤ 127 := Nat.le_of_lt_succ (toNat_lt_of_isWritten written)
  simp only [String.utf8EncodeChar, small, if_true]
  rfl

theorem beginPiece_written {c : Char} (written : isWritten c = true) :
    beginPiece (UInt8.ofNat c.toNat) = ([.char c 1], none) := by
  have small := toNat_lt_of_isWritten written
  have same : (UInt8.ofNat c.toNat).toNat = c.toNat := by
    rw [UInt8.toNat_ofNat']
    omega
  have ascii : UInt8.ofNat c.toNat < 128 := by
    rw [UInt8.lt_iff_toNat_lt, same]
    exact small
  rw [beginPiece, if_pos ascii, same, Char.ofNat_toNat]

theorem pieces_written {chars : List Char} (written : chars.all isWritten = true) :
    pieces (chars.flatMap String.utf8EncodeChar) = chars.map (Piece.char · 1) := by
  rw [pieces]
  induction chars with
  | nil => rfl
  | cons c chars ih =>
    rw [List.all_cons, Bool.and_eq_true] at written
    rw [List.flatMap_cons, encodeChar_written written.1, List.singleton_append, piecesFrom, stepPiece,
      beginPiece_written written.1]
    simp only [ih written.2, List.singleton_append, List.map_cons]

theorem charsOf_chars (position : Nat) (chars : List Char) :
    charsOf position (chars.map (Piece.char · 1)) = .ok chars := by
  induction chars generalizing position with
  | nil => rfl
  | cons c chars ih =>
    rw [List.map_cons, charsOf, ih]
    rfl

theorem unifyNewlines_written {chars : List Char} (written : chars.all isWritten = true) :
    unifyNewlines chars = chars := by
  induction chars with
  | nil => rfl
  | cons c chars ih =>
    rw [List.all_cons, Bool.and_eq_true] at written
    have other : c ≠ '\r' := by
      rintro rfl
      cases written.1
    rw [unifyNewlines, ih written.2]
    · rintro rest rfl
      exact absurd rfl other
    · rintro rfl
      exact absurd rfl other

theorem decode_written {chars : List Char} (written : chars.all isWritten = true) :
    decode (String.ofList chars).toUTF8.toList = .ok (String.ofList chars) := by
  rw [decode, toList_toUTF8, pieces_written written, charsOf_chars]
  simp only [Except.map, unifyNewlines_written written]

end CodeAtlas.Files
