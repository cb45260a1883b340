import ClassFields.Toml.Value

/-!
# Scalars of TOML

Readers for strings, numbers, dates and times. Each takes a text and gives a value and what follows
it. What may follow is checked by whoever asks, so a reader may stop early.
-/

namespace ClassFields.Toml

/-- A reader of part of a document. -/
abbrev Part (α : Type) := List Char → Option (α × List Char)

/-! ## Blanks and line breaks -/

/-- Spaces and tabs. -/
def isSpace (c : Char) : Bool := c == ' ' || c == '\t'

/-- What follows the spaces and tabs at the front. -/
def afterSpaces (text : List Char) : List Char := text.dropWhile isSpace

/-- What follows the line break at the front. -/
def afterBreak? : List Char → Option (List Char)
  | '\n' :: rest => some rest
  | '\r' :: '\n' :: rest => some rest
  | _ => none

/-- Characters that a comment may hold: all but the controls other than the tab. -/
def isVisible (c : Char) : Bool := c == '\t' || (0x20 ≤ c.toNat && c.toNat != 0x7F)

/-- What follows a comment, if one starts here. -/
def afterComment (text : List Char) : List Char :=
  match text with
  | '#' :: rest => rest.dropWhile isVisible
  | _ => text

/-- What follows spaces and a comment, if the line ends there. -/
def afterLine? (text : List Char) : Option (List Char) :=
  match afterComment (afterSpaces text) with
  | [] => some []
  | rest => afterBreak? rest

/-- Skips spaces, line breaks and comments, each of which a line break ends. -/
def skipLines : (inComment : Bool) → List Char → Option (List Char)
  | false, [] => some []
  | false, '\n' :: rest => skipLines false rest
  | false, '\r' :: '\n' :: rest => skipLines false rest
  | false, c :: rest =>
    if isSpace c then skipLines false rest
    else if c == '#' then skipLines true rest
    else some (c :: rest)
  | true, [] => none
  | true, '\n' :: rest => skipLines false rest
  | true, '\r' :: '\n' :: rest => skipLines false rest
  | true, c :: rest => if isVisible c then skipLines true rest else none

/-! ## Strings -/

/-- The value of a hexadecimal digit. -/
def hexDigit? (c : Char) : Option Nat :=
  if c.isDigit then some (c.toNat - '0'.toNat)
  else if 'a' ≤ c && c ≤ 'f' then some (c.toNat - 'a'.toNat + 10)
  else if 'A' ≤ c && c ≤ 'F' then some (c.toNat - 'A'.toNat + 10)
  else none

/-- A character by a number of hexadecimal digits. -/
def codePoint? (count : Nat) (text : List Char) : Option (Char × List Char) := do
  let digits := text.take count
  guard (digits.length == count)
  let n ← digits.foldlM (fun n c => (hexDigit? c).map (n * 16 + ·)) 0
  guard n.isValidChar
  return (Char.ofNat n, text.drop count)

/-- The character that an escape stands for, after its backslash. -/
def escape? : Part Char
  | 'b' :: rest => some ('\x08', rest)
  | 't' :: rest => some ('\t', rest)
  | 'n' :: rest => some ('\n', rest)
  | 'f' :: rest => some ('\x0c', rest)
  | 'r' :: rest => some ('\r', rest)
  | '"' :: rest => some ('"', rest)
  | '\\' :: rest => some ('\\', rest)
  | 'u' :: rest => codePoint? 4 rest
  | 'U' :: rest => codePoint? 8 rest
  | _ => none

/-- A string in double quotes, after the opening one. Each step uses a character. -/
def basic? : Nat → Part (List Char)
  | 0, _ => none
  | _ + 1, [] => none
  | _ + 1, '"' :: rest => some ([], rest)
  | steps + 1, '\\' :: rest => do
    let (c, rest) ← escape? rest
    let (s, rest) ← basic? steps rest
    return (c :: s, rest)
  | steps + 1, c :: rest => do
    guard (isVisible c)
    let (s, rest) ← basic? steps rest
    return (c :: s, rest)

/-- A string in single quotes, after the opening one. -/
def literal? (text : List Char) : Option (List Char × List Char) :=
  let inner := fun c => isVisible c && c != '\''
  match text.dropWhile inner with
  | '\'' :: rest => some (text.takeWhile inner, rest)
  | _ => none

/-- What follows a line break that a backslash hides: all blanks and line breaks. -/
def afterHidden? (text : List Char) : Option (List Char) :=
  (afterBreak? (afterSpaces text)).map fun rest =>
    rest.dropWhile (fun c => isSpace c || c == '\n' || c == '\r')

/-- Whether each carriage return of a text is part of a line break. -/
def returnsPaired : List Char → Bool
  | [] => true
  | '\r' :: '\n' :: rest => returnsPaired rest
  | c :: rest => c != '\r' && returnsPaired rest

/-- The quotes that close a string of several lines: three, and up to two before them that belong
to the string. -/
def closing? (quote : Char) (text : List Char) : Option (List Char × List Char) :=
  let quotes := text.takeWhile (· == quote)
  if quotes.length < 3 then none
  else
    let inside := min (quotes.length - 3) 2
    some (quotes.take inside, text.drop (inside + 3))

/-- A string of several lines, after its opening quotes. Each step uses a character. -/
def lines? (quote : Char) (escapes : Bool) : Nat → Part (List Char)
  | 0, _ => none
  | _ + 1, [] => none
  | steps + 1, c :: rest =>
    match closing? quote (c :: rest), afterBreak? (c :: rest) with
    | some closed, _ => some closed
    | none, some rest => (lines? quote escapes steps rest).map fun (s, rest) => ('\n' :: s, rest)
    | none, none =>
      if escapes && c == '\\' then
        match afterHidden? rest with
        | some after =>
          let hidden := rest.take (rest.length - after.length)
          if returnsPaired hidden then lines? quote escapes steps after else none
        | none => do
          let (c, rest) ← escape? rest
          let (s, rest) ← lines? quote escapes steps rest
          return (c :: s, rest)
      else do
        guard (isVisible c)
        let (s, rest) ← lines? quote escapes steps rest
        return (c :: s, rest)

/-- A string that opens with three quotes. A line break directly after them does not count. -/
def severalLines? (quote : Char) (escapes : Bool) (text : List Char) :
    Option (List Char × List Char) :=
  let text := (afterBreak? text).getD text
  lines? quote escapes (text.length + 1) text

/-- A string of any form. -/
def string? : Part String := fun text => do
  let (s, rest) ←
    match text with
    | '"' :: '"' :: '"' :: rest => severalLines? '"' true rest
    | '\'' :: '\'' :: '\'' :: rest => severalLines? '\'' false rest
    | '"' :: rest => basic? (rest.length + 1) rest
    | '\'' :: rest => literal? rest
    | _ => none
  return (String.ofList s, rest)

/-! ## Numbers -/

/-- Digits with single low lines between them. -/
def digits? (isDigit : Char → Bool) : Part (List Char)
  | [] => none
  | c :: rest =>
    if !isDigit c then none
    else
      match rest with
      | '_' :: d :: more =>
        if isDigit d then (digits? isDigit (d :: more)).map fun (s, rest) => (c :: s, rest)
        else some ([c], rest)
      | d :: more =>
        if isDigit d then (digits? isDigit (d :: more)).map fun (s, rest) => (c :: s, rest)
        else some ([c], rest)
      | [] => some ([c], [])

/-- The value of digits in a base. -/
def valueOf (base : Nat) (digits : List Char) : Nat :=
  digits.foldl (fun n c => n * base + (hexDigit? c).getD 0) 0

/-- A sign, if there is one: whether it is a minus. -/
def sign (text : List Char) : Bool × List Char :=
  match text with
  | '-' :: rest => (true, rest)
  | '+' :: rest => (false, rest)
  | _ => (false, text)

/-- Decimal digits of which only the last may be a zero in front. -/
def wholePart? (text : List Char) : Option (List Char × List Char) :=
  match text with
  | '0' :: rest => some (['0'], rest)
  | _ => digits? Char.isDigit text

/-- The integers that fit. -/
def fits (n : Int) : Bool := -Int.ofNat (Nat.pow 2 63) ≤ n && n < Int.ofNat (Nat.pow 2 63)

/-- An integer, in base ten with a sign or in another base without one. -/
def integer? : Part Int := fun text => do
  let (n, rest) ←
    match text with
    | '0' :: 'x' :: rest =>
      (digits? (fun c => (hexDigit? c).isSome) rest).map fun (s, rest) => (Int.ofNat (valueOf 16 s), rest)
    | '0' :: 'o' :: rest =>
      (digits? (fun c => '0' ≤ c && c ≤ '7') rest).map fun (s, rest) => (Int.ofNat (valueOf 8 s), rest)
    | '0' :: 'b' :: rest =>
      (digits? (fun c => c == '0' || c == '1') rest).map fun (s, rest) => (Int.ofNat (valueOf 2 s), rest)
    | _ =>
      let (negative, text) := sign text
      (wholePart? text).map fun (s, rest) =>
        (if negative then -Int.ofNat (valueOf 10 s) else Int.ofNat (valueOf 10 s), rest)
  guard (fits n)
  return (n, rest)

/-- An exponent, if there is one. -/
def exponent? (text : List Char) : Option (Int × List Char) :=
  match text with
  | c :: rest =>
    if c == 'e' || c == 'E' then
      let (negative, rest) := sign rest
      (digits? Char.isDigit rest).map fun (s, rest) =>
        (if negative then -Int.ofNat (valueOf 10 s) else Int.ofNat (valueOf 10 s), rest)
    else none
  | [] => none

/-- A number with a fraction, an exponent or both. One too large for double precision is refused,
unless it is negative. -/
def finite? : Part Float := fun text => do
  let (negative, text) := sign text
  let (whole, text) ← wholePart? text
  let (places, text) ←
    match text with
    | '.' :: rest => digits? Char.isDigit rest
    | _ => if (exponent? text).isSome then some ([], text) else none
  let (exponent, text) := (exponent? text).getD (0, text)
  let x : Decimal := ⟨negative, valueOf 10 (whole ++ places), exponent - Int.ofNat places.length⟩
  guard (negative || !x.overflows)
  return (.finite x, text)

/-- A floating-point value. -/
def float? : Part Float := fun text =>
  (finite? text).or
    (let (negative, rest) := sign text
    match rest with
    | 'i' :: 'n' :: 'f' :: rest => some (.infinite negative, rest)
    | 'n' :: 'a' :: 'n' :: rest => some (.nan, rest)
    | _ => none)

/-! ## Dates and times -/

/-- A number of a fixed count of digits, between two bounds. -/
def fixed? (count lo hi : Nat) (text : List Char) : Option (Nat × List Char) := do
  let digits := text.take count
  guard (digits.length == count && digits.all Char.isDigit)
  let n := valueOf 10 digits
  guard (lo ≤ n && n ≤ hi)
  return (n, text.drop count)

/-- What follows a character, if it is next. -/
def after? (c : Char) : List Char → Option (List Char)
  | d :: rest => if c == d then some rest else none
  | [] => none

/-- How many days a month has. -/
def daysIn (year month : Nat) : Nat :=
  if month == 2 then
    if year % 4 == 0 && (year % 100 != 0 || year % 400 == 0) then 29 else 28
  else if month == 4 || month == 6 || month == 9 || month == 11 then 30
  else 31

/-- A date. -/
def date? : Part Date := fun text => do
  let (year, text) ← fixed? 4 0 9999 text
  let (month, text) ← fixed? 2 1 12 (← after? '-' text)
  let (day, text) ← fixed? 2 1 (daysIn year month) (← after? '-' text)
  return (⟨year, month, day⟩, text)

/-- A time of day. -/
def time? : Part Time := fun text => do
  let (hour, text) ← fixed? 2 0 23 text
  let (minute, text) ← fixed? 2 0 59 (← after? ':' text)
  let (second, text) ← fixed? 2 0 60 (← after? ':' text)
  match text with
  | '.' :: rest =>
    let fraction := rest.takeWhile Char.isDigit
    if fraction.isEmpty then return (⟨hour, minute, second, []⟩, text)
    else return (⟨hour, minute, second, fraction⟩, rest.dropWhile Char.isDigit)
  | _ => return (⟨hour, minute, second, []⟩, text)

/-- An offset in minutes. -/
def offset? : Part Int := fun text =>
  match text with
  | c :: rest =>
    if c == 'Z' || c == 'z' then some (0, rest)
    else if c == '+' || c == '-' then do
      let (hour, rest) ← fixed? 2 0 23 rest
      let (minute, rest) ← fixed? 2 0 59 (← after? ':' rest)
      let n := Int.ofNat (hour * 60 + minute)
      return (if c == '-' then -n else n, rest)
    else none
  | [] => none

/-- A date, a time or both. -/
def moment? : Part Moment := fun text =>
  match date? text with
  | some (date, text) =>
    let timed :=
      match text with
      | c :: rest => if c == 'T' || c == 't' || c == ' ' then time? rest else none
      | [] => none
    match timed with
    | some (time, text) =>
      match offset? text with
      | some (offset, text) => some (⟨some date, some time, some offset⟩, text)
      | none => some (⟨some date, some time, none⟩, text)
    | none => some (⟨some date, none, none⟩, text)
  | none => (time? text).map fun (time, text) => (⟨none, some time, none⟩, text)

end ClassFields.Toml
