/-!
# Texts

A text is the list of its code points, so that every function on it is a recursion over a list
and every position is a number of code points. String literals stand for texts by coercion.
-/

namespace SqlReview

/-- A text, as the list of its code points. -/
abbrev Text := List Char

instance : Coe String Text := ⟨String.toList⟩

namespace Text

/-! ## Cutting and joining -/

/-- The part of a text between two offsets. -/
def slice (text : Text) (start stop : Nat) : Text :=
  (text.drop start).take (stop - start)

/-- The end of a text freed from the characters of a class. -/
def trimEndWhere (drop : Char → Bool) (text : Text) : Text :=
  (text.reverse.dropWhile drop).reverse

/-- Both ends of a text freed from the characters of a class. -/
def trimWhere (drop : Char → Bool) (text : Text) : Text :=
  trimEndWhere drop (text.dropWhile drop)

/-- The pieces of a text between the occurrences of a separator; there is one more piece than
there are separators. -/
def splitAt (separator : Char) : Text → List Text
  | [] => [[]]
  | c :: rest =>
    if c = separator then [] :: splitAt separator rest
    else
      match splitAt separator rest with
      | [] => [[c]]
      | piece :: pieces => (c :: piece) :: pieces

/-- What stands before the first separator and, if there is one, what stands after it. -/
def cut (separator : Char) : Text → Text × Option Text
  | [] => ([], none)
  | c :: rest =>
    if c = separator then ([], some rest)
    else ((c :: (cut separator rest).1), (cut separator rest).2)

/-- The piece of a text after its last separator. -/
def lastPiece (separator : Char) (text : Text) : Text :=
  ((splitAt separator text).getLast?).getD []

/-- Texts put one after another with a separator between neighbours. -/
def join (separator : Text) (texts : List Text) : Text :=
  separator.intercalate texts

/-! ## Line breaks -/

/-- A text in which a carriage return, alone or in front of a line feed, becomes a line feed. -/
def unifyLineBreaks : Text → Text
  | [] => []
  | '\r' :: '\n' :: rest => '\n' :: unifyLineBreaks rest
  | c :: rest => (if c = '\r' then '\n' else c) :: unifyLineBreaks rest

/-! ## Looking for parts -/

/-- Whether a text contains another one. -/
def holds (part : Text) : Text → Bool
  | [] => part.isEmpty
  | c :: rest => part.isPrefixOf (c :: rest) || holds part rest

/-- The rest of a text behind a given beginning. -/
def after? (beginning text : Text) : Option Text :=
  if beginning.isPrefixOf text then some (text.drop beginning.length) else none

/-! ## Numerals -/

/-- The decimal numeral of a natural number. -/
def ofNat (n : Nat) : Text :=
  Nat.toDigits 10 n

/-- The decimal numeral of an integer, with a sign only below zero. -/
def ofInt : Int → Text
  | .ofNat n => ofNat n
  | .negSucc n => '-' :: ofNat (n + 1)

/-- The lower-case hexadecimal numeral of a number in a field of a given width. -/
def hexadecimal (width n : Nat) : Text :=
  let digits := Nat.toDigits 16 n
  List.replicate (width - digits.length) '0' ++ digits

end Text
end SqlReview
