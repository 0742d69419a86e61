/-
What `echo` and `printf` print: texts as bytes, with the escapes that begin
with a backslash.
-/
import Overlay.Decimal.Read
import Overlay.Text.Cut

namespace Overlay.CommandLine

open Text

/-- The bytes of a text. -/
def bytesOf (text : String) : List UInt8 := text.toUTF8.toList

/-- The value of a digit of a base, if this is one. -/
def digitIn? (base : Nat) (c : Char) : Option Nat :=
  let value :=
    if '0' ≤ c && c ≤ '9' then c.toNat - '0'.toNat
    else if 'a' ≤ c && c ≤ 'f' then c.toNat - 'a'.toNat + 10
    else if 'A' ≤ c && c ≤ 'F' then c.toNat - 'A'.toNat + 10
    else base
  if value < base then some value else none

/-- The byte of some digits. -/
def byteIn (base : Nat) (digits : List Char) : UInt8 :=
  UInt8.ofNat (digits.foldl (fun n c => n * base + (digitIn? base c).getD 0) 0)

/-- The digits of a base at the beginning of a text, up to a number of them. -/
def leadingDigits (base limit : Nat) (cs : List Char) : List Char :=
  (cs.take limit).takeWhile fun c => (digitIn? base c).isSome

/-- The byte that a letter after a backslash stands for. -/
def letterByte? : Char → Option UInt8
  | '\\' => some 92
  | 'a' => some 7
  | 'b' => some 8
  | 'e' => some 27
  | 'f' => some 12
  | 'n' => some 10
  | 'r' => some 13
  | 't' => some 9
  | 'v' => some 11
  | _ => none

/-- Which escapes count. -/
structure EscapeStyle where
  /-- Octal digits may come after a zero that does not count. -/
  octalLead : Bool
  /-- `x` leads hexadecimal digits, and `u` four of those of a character. -/
  hex : Bool
  /-- A quote may stand behind a backslash. -/
  quote : Bool
  /-- `c` ends what is printed. -/
  stops : Bool

/-- Where a text is a format, and where it is printed as it is. -/
def EscapeStyle.format : EscapeStyle := ⟨false, true, true, true⟩

@[inherit_doc EscapeStyle.format]
def EscapeStyle.text : EscapeStyle := ⟨true, true, true, true⟩

/-- The escapes of `echo`. -/
def EscapeStyle.echo : EscapeStyle := ⟨true, true, false, true⟩

/-- The same in a shell. -/
def EscapeStyle.shellFormat : EscapeStyle := ⟨false, false, false, false⟩

@[inherit_doc EscapeStyle.shellFormat]
def EscapeStyle.shellText : EscapeStyle := ⟨true, false, false, true⟩

/-- How an argument is shown. -/
structure Conversion where
  letter : Char
  flags : List Char := []
  width : Nat := 0
  precision : Option Nat := none

/-- A piece of what is printed. -/
inductive PrintedPiece
  | bytes (value : List UInt8)
  /-- The place of an argument. -/
  | argument (c : Conversion)
  /-- Nothing more is printed. -/
  | stop
  /-- A conversion that there is not. -/
  | unknown

/-- The piece that an escape stands for, and the text after it; the backslash
is gone already. -/
def escapeAt (style : EscapeStyle) (cs : List Char) :
    PrintedPiece × List Char :=
  match cs with
  | [] => (.bytes [92], [])
  | c :: rest =>
    match letterByte? c with
    | some b => (.bytes [b], rest)
    | none =>
      let written : PrintedPiece × List Char :=
        (.bytes (bytesOf (String.ofList ['\\', c])), rest)
      if c == 'c' && style.stops then (.stop, rest)
      else if c == '"' && style.quote then (.bytes [34], rest)
      else if c == 'x' && style.hex then
        match leadingDigits 16 2 rest with
        | [] => written
        | digits => (.bytes [byteIn 16 digits], rest.drop digits.length)
      else if c == 'u' && style.hex && style.quote then
        let digits := leadingDigits 16 4 rest
        let n := digits.foldl (fun n c => n * 16 + (digitIn? 16 c).getD 0) 0
        if digits.length == 4 then
          (.bytes (bytesOf (String.ofList [Char.ofNat n])), rest.drop 4)
        else written
      else if c == '0' && style.octalLead then
        let digits := leadingDigits 8 3 rest
        (.bytes [byteIn 8 digits], rest.drop digits.length)
      else
        match leadingDigits 8 3 (c :: rest) with
        | [] => written
        | digits => (.bytes [byteIn 8 digits], (c :: rest).drop digits.length)

/-- The conversion that stands behind a percent sign, and the text after it. -/
def conversionAt? (cs : List Char) : Option (Conversion × List Char) :=
  let flags := cs.takeWhile "-0+ #".toList.contains
  let rest := cs.drop flags.length
  let width := rest.takeWhile isAsciiDigit
  let rest := rest.drop width.length
  let number (digits : List Char) : Nat := (String.ofList digits).toNat?.getD 0
  let (precision, rest) := match rest with
    | '.' :: rest =>
      let digits := rest.takeWhile isAsciiDigit
      (some (number digits), rest.drop digits.length)
    | rest => (none, rest)
  match rest with
  | c :: rest =>
    if "sbcdiuxXof".toList.contains c then
      some (⟨c, flags, number width, precision⟩, rest) else none
  | [] => none

/-- The pieces of a text. With `conversions`, a percent sign makes the place of
an argument. -/
def piecesOf (style : EscapeStyle) (conversions : Bool) :
    (fuel : Nat) → List Char → List PrintedPiece
  | 0, _ => []
  | _, [] => []
  | fuel + 1, '\\' :: rest =>
    let (piece, rest) := escapeAt style rest
    piece :: piecesOf style conversions fuel rest
  | fuel + 1, c :: rest =>
    if c == '%' && conversions then
      match rest with
      | '%' :: rest => .bytes [37] :: piecesOf style conversions fuel rest
      | rest =>
        match conversionAt? rest with
        | some (place, rest) =>
          .argument place :: piecesOf style conversions fuel rest
        | none => [.unknown]
    else
      .bytes (bytesOf (String.ofList [c]))
        :: piecesOf style conversions fuel rest

-- ===== numbers

/-- The natural number that a text is: with a lead for its base, or the code of
a character behind a quote. -/
def naturalArgument? (cs : List Char) : Option Nat :=
  let inBase (base : Nat) (digits : List Char) : Option Nat :=
    if digits.isEmpty || !digits.all fun c => (digitIn? base c).isSome then none
    else some (digits.foldl (fun n c => n * base + (digitIn? base c).getD 0) 0)
  match cs with
  | '\'' :: c :: _ | '"' :: c :: _ => some c.toNat
  | '0' :: 'x' :: digits | '0' :: 'X' :: digits => inBase 16 digits
  | '0' :: digits => if digits.isEmpty then some 0 else inBase 8 digits
  | digits => inBase 10 digits

/-- The integer that a text is; an empty text is zero. -/
def integerArgument? (text : String) : Option Int :=
  match text.toList with
  | [] => some 0
  | '-' :: cs => (naturalArgument? cs).map fun n => -(n : Int)
  | '+' :: cs | cs => (naturalArgument? cs).map fun n => (n : Int)

/-- A number with a sign, filled up to its width. -/
def Conversion.numeral (c : Conversion) (negative : Bool)
    (lead digits : List Char) : List Char :=
  let sign := if negative then ['-'] else if c.flags.contains '+' then ['+']
    else if c.flags.contains ' ' then [' '] else []
  let missing := c.width - (sign.length + lead.length + digits.length)
  if c.flags.contains '-' then
    sign ++ lead ++ digits ++ List.replicate missing ' '
  else if c.flags.contains '0' && (c.precision.isNone || c.letter == 'f') then
    sign ++ lead ++ List.replicate missing '0' ++ digits
  else List.replicate missing ' ' ++ sign ++ lead ++ digits

/-- An integer as it is shown. -/
def Conversion.integer (c : Conversion) (n : Int) : List Char :=
  let isSigned := c.letter == 'd' || c.letter == 'i'
  let size := if isSigned then n.natAbs else (n % (twoTo 64 : Nat)).toNat
  let base :=
    if c.letter == 'o' then 8
    else if c.letter == 'x' || c.letter == 'X' then 16
    else 10
  let digits := Nat.toDigits base size
  let digits := if c.letter == 'X' then digits.map Char.toUpper else digits
  let digits :=
    List.replicate (c.precision.getD 1 - digits.length) '0' ++ digits
  let lead :=
    if !c.flags.contains '#' || size == 0 then []
    else if base == 16 then ['0', c.letter]
    else if base == 8 then ['0']
    else []
  ({ c with
    flags :=
      if isSigned then c.flags
      else c.flags.filter fun f => f != '+' && f != ' ' }).numeral
    (isSigned && n < 0) lead digits

/-- A real number as it is shown: with some digits behind the point. -/
def Conversion.real (c : Conversion) (x : Float) : List Char :=
  match Decimal.decode x with
  | .nan => c.numeral false [] ['n', 'a', 'n']
  | .infinite negative => c.numeral negative [] ['i', 'n', 'f']
  | .finite negative m q =>
    let places := c.precision.getD 6
    let (num, den) := Decimal.fraction m q
    let digits := Nat.toDigits 10 (Decimal.roundDiv (num * tenTo places) den)
    let digits := List.replicate (places + 1 - digits.length) '0' ++ digits
    let whole := digits.take (digits.length - places)
    c.numeral negative []
      (if places == 0 then whole
        else whole ++ '.' :: digits.drop whole.length)

-- ===== printing

/-- What is printed, and how it ended. -/
structure Printing where
  bytes : List UInt8 := []
  /-- Nothing more is printed. -/
  stopped : Bool := false
  /-- All arguments could be shown. -/
  valid : Bool := true

/-- What is printed one after the other. -/
def Printing.andThen (a b : Printing) : Printing :=
  ⟨a.bytes ++ b.bytes, b.stopped, a.valid && b.valid⟩

/-- What is printed of pieces without arguments. -/
def showPlain : List PrintedPiece → Printing
  | [] => {}
  | .bytes value :: rest => Printing.andThen { bytes := value } (showPlain rest)
  | .stop :: _ => { stopped := true }
  | _ :: rest => showPlain rest

/-- A text as it is printed, with its escapes. -/
def showText (style : EscapeStyle) (text : String) : Printing :=
  showPlain (piecesOf style false (text.length + 1) text.toList)

/-- An argument as it is shown. -/
def Conversion.show (style : EscapeStyle) (c : Conversion) (text : String) :
    Printing :=
  let filled (bytes : List UInt8) : List UInt8 :=
    let missing := List.replicate (c.width - bytes.length) 32
    if c.flags.contains '-' then bytes ++ missing else missing ++ bytes
  let ascii (cs : List Char) : List UInt8 := bytesOf (String.ofList cs)
  let cut (bytes : List UInt8) : List UInt8 :=
    (c.precision.map bytes.take).getD bytes
  match c.letter with
  | 's' => { bytes := filled (cut (bytesOf text)) }
  | 'c' => { bytes := filled ((bytesOf text).take 1) }
  | 'b' =>
    let shown := showText style text
    { shown with bytes := filled (cut shown.bytes) }
  | 'f' =>
    match if text == "" then some 0 else Decimal.real? text.toList with
    | some x => { bytes := ascii (c.real x) }
    | none => { bytes := ascii (c.real 0), valid := false }
  | _ =>
    match integerArgument? text with
    | some n => { bytes := ascii (c.integer n) }
    | none =>
      let digits := text.toList.takeWhile isAsciiDigit
      { bytes := ascii (c.integer ((String.ofList digits).toNat?.getD 0)),
        valid := false }

/-- What is printed of some pieces, and the arguments that are left. A missing
argument is empty. -/
def showPieces (style : EscapeStyle) :
    List PrintedPiece → List String → Printing × List String
  | [], args => ({}, args)
  | .stop :: _, args => ({ stopped := true }, args)
  | .unknown :: _, args => ({ stopped := true, valid := false }, args)
  | .bytes value :: rest, args =>
    let (shown, left) := showPieces style rest args
    (Printing.andThen { bytes := value } shown, left)
  | .argument c :: rest, args =>
    let own := c.show style (args.headD "")
    if own.stopped then (own, args.tail)
    else
      let (shown, left) := showPieces style rest args.tail
      (own.andThen shown, left)

/-- Whether some pieces have places for arguments. -/
def hasArgument (pieces : List PrintedPiece) : Bool :=
  pieces.any fun
    | .argument _ => true
    | _ => false

/-- What is printed of some pieces, used again until all arguments are shown. -/
def showAll (style : EscapeStyle) (pieces : List PrintedPiece) :
    (fuel : Nat) → List String → Printing
  | 0, _ => {}
  | fuel + 1, args =>
    let (shown, left) := showPieces style pieces args
    if !shown.stopped && hasArgument pieces && !left.isEmpty then
      shown.andThen (showAll style pieces fuel left)
    else shown

/-- What `printf` prints. -/
def printf (inShell : Bool) (format : String) (args : List String) : Printing :=
  let style := if inShell then EscapeStyle.shellFormat else EscapeStyle.format
  showAll (if inShell then EscapeStyle.shellText else EscapeStyle.text)
    (piecesOf style true (format.length + 1) format.toList)
      (args.length + 1) args

/-- Texts with spaces between them and a line end after them, with the escapes
of `echo`. -/
def echoEscaped (style : EscapeStyle) (lineEnd : Bool) (args : List String) :
    List UInt8 :=
  let shown := showText style (join " " args)
  shown.bytes ++ if lineEnd && !shown.stopped then [10] else []

/-- Texts with spaces between them and a line end after them. -/
def echoPlain (lineEnd : Bool) (args : List String) : List UInt8 :=
  bytesOf (join " " args) ++ if lineEnd then [10] else []

/-- Whether an argument gives options to `echo`. -/
def isEchoOption (text : String) : Bool :=
  match text.toList with
  | '-' :: letters@(_ :: _) =>
    letters.all fun c => c == 'n' || c == 'e' || c == 'E'
  | _ => false

/-- What `echo` prints. It takes options: `n` leaves the line end out, `e` and
`E` turn escapes on and off. -/
def echo (args : List String) : List UInt8 :=
  let options := (args.takeWhile isEchoOption).flatMap String.toList
  let texts := args.dropWhile isEchoOption
  let lineEnd := !options.contains 'n'
  if (options.filter fun c => c == 'e' || c == 'E').getLast? == some 'e' then
    echoEscaped .echo lineEnd texts
  else echoPlain lineEnd texts

/-- What the `echo` of a shell prints: escapes always count, and only a first
`-n` is an option. -/
def shellEcho (args : List String) : List UInt8 :=
  match args with
  | "-n" :: texts => echoEscaped .shellText false texts
  | texts => echoEscaped .shellText true texts

end Overlay.CommandLine
