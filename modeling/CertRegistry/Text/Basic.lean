/-!
# Texts

A text is the list of its code points. Unlike a string it may hold surrogates, which a JSON body
can carry in an escape, so every function on texts is total on them. Positions and lengths count
code points.
-/

namespace CertRegistry

/-- A text, as the list of its code points. -/
abbrev Text := List Nat

namespace Text

/-- Texts that test as equal are equal, so that membership in a list of texts is decidable. -/
instance : LawfulBEq Text := List.instLawfulBEq

/-- The text of a string. -/
def ofString (s : String) : Text := s.toList.map Char.toNat

instance : Coe String Text := ⟨ofString⟩

@[simp] theorem ofString_inj {s t : String} : ofString s = ofString t ↔ s = t := by
  unfold ofString
  rw [List.map_inj_right fun _ _ h => Char.toNat_inj.1 h, String.toList_inj]

/-- The decimal digits of a number. -/
def ofNat (n : Nat) : Text := (Nat.toDigits 10 n).map Char.toNat

/-- The decimal text of an integer, with a sign only when it is negative. -/
def ofInt : Int → Text
  | .ofNat n => ofNat n
  | .negSucc n => ofString "-" ++ ofNat (n + 1)

/-- So many zeros. -/
def zeros (count : Nat) : Text := List.replicate count 48

/-- The decimal digits of a number, with zeros in front up to a least length. -/
def padded (width n : Nat) : Text := zeros (width - (ofNat n).length) ++ ofNat n

/-- The texts in order, with a separator between neighbours. -/
def join (separator : Text) : List Text → Text
  | [] => []
  | [t] => t
  | t :: u :: r => t ++ separator ++ join separator (u :: r)

/-- The parts between the occurrences of a code point; there is always one. -/
def splitOn (mark : Nat) : Text → List Text
  | [] => [[]]
  | c :: r =>
    if c = mark then [] :: splitOn mark r
    else
      match splitOn mark r with
      | [] => [[c]]
      | p :: ps => (c :: p) :: ps

/-- The parts around the first occurrence of a code point, the second absent without one. -/
def cut (mark : Nat) : Text → Text × Option Text
  | [] => ([], none)
  | c :: r => if c = mark then ([], some r) else ((c :: (cut mark r).1), (cut mark r).2)

/-- A text without the code points of a class at either end. -/
def trim (p : Nat → Bool) (t : Text) : Text := ((t.dropWhile p).reverse.dropWhile p).reverse

/-- A replacement of every code point. -/
def replace (old new : Nat) (t : Text) : Text := t.map fun c => if c = old then new else c

/-- The small letter of an ASCII capital, every other code point itself. -/
def asciiLower (c : Nat) : Nat := if 65 ≤ c ∧ c ≤ 90 then c + 32 else c

/-- A UTF-16 surrogate, which no encoded text can hold. -/
def isSurrogate (c : Nat) : Bool := 0xD800 ≤ c && c ≤ 0xDFFF

/-- An ASCII digit. -/
def isAsciiDigit (c : Nat) : Bool := 48 ≤ c && c ≤ 57

/-- The value of a hexadecimal digit. -/
def hexValue? (c : Nat) : Option Nat :=
  if 48 ≤ c ∧ c ≤ 57 then some (c - 48)
  else if 97 ≤ c ∧ c ≤ 102 then some (c - 87)
  else if 65 ≤ c ∧ c ≤ 70 then some (c - 55)
  else none

/-- The hexadecimal digits of a number in small letters, with zeros up to a least length. -/
def hex (width n : Nat) : Text :=
  let digits := (Nat.toDigits 16 n).map Char.toNat
  zeros (width - digits.length) ++ digits

/-- The number that a list of decimal digits writes. -/
def digitsValue (ds : List Nat) : Nat := ds.foldl (fun n d => 10 * n + d) 0

end Text

/-- A set of code points, given by the increasing list of the points where membership changes. -/
structure CodeSet where
  changes : List Nat

/-- A code point belongs to the set when an odd number of changes lie at or below it. -/
def CodeSet.contains (s : CodeSet) (c : Nat) : Bool := (s.changes.takeWhile (· ≤ c)).length % 2 == 1

end CertRegistry
