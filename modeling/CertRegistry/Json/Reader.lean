import CertRegistry.Json.Basic

/-!
# Reading JSON

A recursive-descent reader of JSON texts. Beyond the grammar it takes `NaN`, `Infinity` and
`-Infinity`; escaped surrogates pair up where they can and stay alone where they cannot. Of two
members of one name the last value counts, at the place of the first. Lists and objects are read
up to a limited depth. The first fault in reading order is the one reported.
-/

namespace CertRegistry.Json

/-- Why a text is no JSON value. -/
inductive ReadError
  | malformed
  | integerTooLong (digits : Nat)
  /-- A list lies deeper than lists and objects are read. -/
  | deepList
  /-- An object lies deeper than lists and objects are read. -/
  | deepObject
deriving DecidableEq, Repr

namespace Reader

/-- The code points that may stand between tokens: space, tab, line feed and carriage return. -/
def isGap (c : Nat) : Bool := c = 32 || c = 9 || c = 10 || c = 13

/-- The rest of a text after gaps. -/
def skipGaps (t : Text) : Text := t.dropWhile isGap

/-- The text after a literal in front. -/
def after? (literal t : Text) : Option Text :=
  if literal.isPrefixOf t then some (t.drop literal.length) else none

/-- The value of four hexadecimal digits in front, and the rest. -/
def hex4? : Text → Option (Nat × Text)
  | a :: b :: c :: d :: r => do
    let w ← Text.hexValue? a
    let x ← Text.hexValue? b
    let y ← Text.hexValue? c
    let z ← Text.hexValue? d
    return (((w * 16 + x) * 16 + y) * 16 + z, r)
  | _ => none

/-- The code point of an escape of one letter. -/
def simpleEscape? (c : Nat) : Option Nat :=
  if c = 34 ∨ c = 92 ∨ c = 47 then some c
  else if c = 98 then some 8
  else if c = 102 then some 12
  else if c = 110 then some 10
  else if c = 114 then some 13
  else if c = 116 then some 9
  else none

/-- A code unit in front of a text, joined with a low surrogate after it where both make a pair. -/
def joinPair (unit : Nat) (r : Text) : Nat × Text :=
  if 0xD800 ≤ unit ∧ unit ≤ 0xDBFF then
    match r with
    | 92 :: 117 :: r' =>
      match hex4? r' with
      | some (low, r'') =>
        if 0xDC00 ≤ low ∧ low ≤ 0xDFFF then
          (0x10000 + (unit - 0xD800) * 0x400 + (low - 0xDC00), r'')
        else (unit, r)
      | none => (unit, r)
    | _ => (unit, r)
  else (unit, r)

/-- The rest of a string after its opening mark: its text, and what follows its closing mark. -/
def string? : Nat → Text → Option (Text × Text)
  | 0, _ => none
  | fuel + 1, t =>
    match t with
    | [] => none
    | 34 :: r => some ([], r)
    | 92 :: 117 :: r =>
      match hex4? r with
      | none => none
      | some (unit, r') =>
        let (c, r'') := joinPair unit r'
        (string? fuel r'').map fun (s, rest) => (c :: s, rest)
    | 92 :: e :: r =>
      match simpleEscape? e with
      | none => none
      | some c => (string? fuel r).map fun (s, rest) => (c :: s, rest)
    | c :: r =>
      if c < 32 ∨ c = 92 then none
      else (string? fuel r).map fun (s, rest) => (c :: s, rest)

/-- The ASCII digits in front of a text, as values, and the rest. -/
def digits (t : Text) : List Nat × Text :=
  ((t.takeWhile Text.isAsciiDigit).map (· - 48), t.dropWhile Text.isAsciiDigit)

/-- The fraction in front of a text: a point and at least one digit. -/
def fraction? : Text → Option (List Nat × Text)
  | 46 :: r => let d := digits r; if d.1 = [] then none else some d
  | _ => none

/-- The power of ten in front of a text: the letter, an optional sign, at least one digit. -/
def power? : Text → Option (Int × Text)
  | c :: r =>
    if c = 101 ∨ c = 69 then
      let (negative, r) := Integer.sign r
      let (ds, rest) := digits r
      if ds = [] then none
      else
        let n : Int := Text.digitsValue ds
        some (if negative then -n else n, rest)
    else none
  | [] => none

/-- A number after its sign. A zero in front stands alone; a fraction or a power of ten that is
not complete is left unread. -/
def number (negative : Bool) (t : Text) : Except ReadError (Json × Text) :=
  let (whole, r) := match t with
    | 48 :: r => ([0], r)
    | _ => digits t
  if whole = [] then .error .malformed
  else
    match fraction? r, power? ((fraction? r).elim r (·.2)) with
    | none, none =>
      if whole.length > Integer.maxDigits then .error (.integerTooLong whole.length)
      else
        let n : Int := Text.digitsValue whole
        .ok (.int (if negative then -n else n), r)
    | f, p =>
      let ds := (f.elim [] (·.1))
      let rest := p.elim (f.elim r (·.2)) (·.2)
      .ok (.float (.ofDecimal negative (Text.digitsValue (whole ++ ds))
        (p.elim 0 (·.1) - ds.length)), rest)

mutual

/-- The value in front of a text, and the rest. Lists and objects may open so many levels more. -/
def value : Nat → Nat → Text → Except ReadError (Json × Text)
  | 0, _, _ => .error .malformed
  | fuel + 1, levels, t =>
    match t with
    | 34 :: r =>
      match string? (r.length + 1) r with
      | some (s, rest) => .ok (.text s, rest)
      | none => .error .malformed
    | 91 :: r =>
      if levels = 0 then .error .deepList
      else
        match skipGaps r with
        | 93 :: rest => .ok (.list [], rest)
        | r => do
          let (items, rest) ← items fuel (levels - 1) r
          return (.list items, rest)
    | 123 :: r =>
      if levels = 0 then .error .deepObject
      else
        match skipGaps r with
        | 125 :: rest => .ok (.object [], rest)
        | r => do
          let (members, rest) ← members fuel (levels - 1) [] r
          return (.object members, rest)
    | 45 :: r =>
      match after? "Infinity" r with
      | some rest => .ok (.float (.infinite true), rest)
      | none => number true r
    | _ =>
      match after? "null" t, after? "true" t, after? "false" t, after? "NaN" t,
          after? "Infinity" t with
      | some rest, _, _, _, _ => .ok (.null, rest)
      | _, some rest, _, _, _ => .ok (.bool true, rest)
      | _, _, some rest, _, _ => .ok (.bool false, rest)
      | _, _, _, some rest, _ => .ok (.float .nan, rest)
      | _, _, _, _, some rest => .ok (.float (.infinite false), rest)
      | _, _, _, _, _ => number false t

/-- The items of a list up to its closing bracket, from the first item on. -/
def items : Nat → Nat → Text → Except ReadError (List Json × Text)
  | 0, _, _ => .error .malformed
  | fuel + 1, levels, t => do
    let (v, r) ← value fuel levels t
    match skipGaps r with
    | 93 :: rest => return ([v], rest)
    | 44 :: r =>
      let (vs, rest) ← items fuel levels (skipGaps r)
      return (v :: vs, rest)
    | _ => .error .malformed

/-- The members of an object up to its closing brace, after those read already. -/
def members : Nat → Nat → List (Text × Json) → Text →
    Except ReadError (List (Text × Json) × Text)
  | 0, _, _, _ => .error .malformed
  | fuel + 1, levels, sofar, t =>
    match t with
    | 34 :: r =>
      match string? (r.length + 1) r with
      | none => .error .malformed
      | some (name, r) =>
        match skipGaps r with
        | 58 :: r => do
          let (v, r) ← value fuel levels (skipGaps r)
          let sofar := setMember name v sofar
          match skipGaps r with
          | 125 :: rest => return (sofar, rest)
          | 44 :: r => members fuel levels sofar (skipGaps r)
          | _ => .error .malformed
        | _ => .error .malformed
    | _ => .error .malformed

end

end Reader

/-- How many lists and objects may lie inside one another. -/
def maxLevels : Nat := 990

/-- The value that a text writes. Each step of the reader uses up one code point, so twice the
length of the text bounds the number of steps. -/
def read (t : Text) : Except ReadError Json := do
  let (v, rest) ← Reader.value (2 * t.length + 1) maxLevels (Reader.skipGaps t)
  if Reader.skipGaps rest = [] then return v else .error .malformed

end CertRegistry.Json
