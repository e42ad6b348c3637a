/-!
# Symbols of a byte text

Files are bytes and mean characters. A file that is not wholly UTF-8 can still be taken apart: it is a
list of symbols, each a character or a byte that belongs to none. Commas, quotes and brackets are found
in it as usual, and only a part that is wanted as a text has to be free of stray bytes. A text that is
written as bytes comes back as its characters (`ofBytes_toUTF8`).
-/

namespace Fieldbook

/-- A character, or a byte that is part of no character. -/
inductive Symbol where
  | char (c : Char)
  | stray (b : UInt8)
  deriving DecidableEq

namespace Symbol

/-- The bytes of a symbol. -/
def bytes : Symbol → List UInt8
  | char c => String.utf8EncodeChar c
  | stray b => [b]

/-- The symbols of the bytes from a position on. -/
def ofBytesFrom (bytes : ByteArray) (pos : Nat) : List Symbol :=
  if h : pos < bytes.size then
    match bytes.utf8DecodeChar? pos with
    | some c => char c :: ofBytesFrom bytes (pos + c.utf8Size)
    | none => stray bytes[pos] :: ofBytesFrom bytes (pos + 1)
  else []
termination_by bytes.size - pos
decreasing_by
  · have := c.utf8Size_pos; omega
  · omega

/-- The symbols of a byte text. -/
def ofBytes (bytes : ByteArray) : List Symbol := ofBytesFrom bytes 0

/-- The symbols of a text. -/
def ofText (s : String) : List Symbol := s.toList.map char

/-- The text that the symbols make up, unless their bytes are no text. -/
def text? (symbols : List Symbol) : Option String :=
  String.fromUTF8? (symbols.flatMap bytes).toByteArray

/-- The symbols without the mark that a byte text may begin with. -/
def withoutMark : List Symbol → List Symbol
  | char '\uFEFF' :: rest => rest
  | symbols => symbols

/-- From where a text begins in a byte text, its characters follow one another. -/
theorem ofBytesFrom_append (front : ByteArray) (cs : List Char) :
    ofBytesFrom (front ++ cs.utf8Encode) front.size = cs.map char := by
  induction cs generalizing front with
  | nil =>
    rw [ofBytesFrom]
    simp
  | cons c cs ih =>
    have hdecode : (front ++ (c :: cs).utf8Encode).utf8DecodeChar? front.size = some c := by
      rw [ByteArray.utf8DecodeChar?_eq_utf8DecodeChar?_extract,
        ByteArray.extract_append_eq_right rfl ByteArray.size_append]
      exact List.utf8DecodeChar?_utf8Encode_cons
    have hlt := ByteArray.lt_size_of_isSome_utf8DecodeChar? (Option.isSome_of_eq_some hdecode)
    have hsplit : front ++ (c :: cs).utf8Encode = (front ++ [c].utf8Encode) ++ cs.utf8Encode := by
      rw [List.utf8Encode_cons, ByteArray.append_assoc]
    have hsize : front.size + c.utf8Size = (front ++ [c].utf8Encode).size := by
      rw [ByteArray.size_append, List.utf8Encode_singleton, List.size_toByteArray,
        String.length_utf8EncodeChar]
    rw [ofBytesFrom, dif_pos hlt]
    split
    · next c' hc' =>
      obtain rfl : c = c' := Option.some.inj (hdecode.symm.trans hc')
      rw [hsplit, hsize, ih, List.map_cons]
    · next hnone => cases hdecode.symm.trans hnone

/-- **The symbols of a text in bytes are its characters.** -/
theorem ofBytes_toUTF8 (s : String) : ofBytes s.toUTF8 = ofText s := by
  have h := ofBytesFrom_append .empty s.toList
  rwa [ByteArray.empty_append, String.utf8Encode_toList] at h

end Symbol

end Fieldbook
