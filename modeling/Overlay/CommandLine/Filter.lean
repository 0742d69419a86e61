/-
Filters: tools that make a text of a text. They count bytes, so a text is a row
of characters here of which each stands for one byte (`byteChars`).

A filter takes options, which are letters behind a dash, and operands. Operands
that are not its own are the names of files, which are read in the place of the
input.
-/
import Overlay.CommandLine.Printed

namespace Overlay.CommandLine

open Text

/-- The characters that stand for some bytes. -/
def byteChars (bytes : List UInt8) : List Char :=
  bytes.map fun b => Char.ofNat b.toNat

/-- The bytes that some characters stand for. -/
def charBytes (cs : List Char) : List UInt8 :=
  cs.map fun c => UInt8.ofNat c.toNat

/-- What a filter has done: the status it ends with, and what it has printed. -/
structure Filtered where
  status : Nat := 0
  printed : List Char := []

-- ===== options and operands

/-- What a filter is asked to do. -/
structure FilterRequest where
  /-- Options by their letters, in order; those without a value have an empty
  one. -/
  options : List (Char × List Char) := []
  operands : List (List Char) := []

namespace FilterRequest

/-- Whether an option is given. -/
def has (r : FilterRequest) (c : Char) : Bool := r.options.any (·.1 == c)

/-- The last value of an option. -/
def value? (r : FilterRequest) (c : Char) : Option (List Char) :=
  (r.options.reverse.find? (·.1 == c)).map (·.2)

/-- All values of an option. -/
def values (r : FilterRequest) (c : Char) : List (List Char) :=
  (r.options.filter (·.1 == c)).map (·.2)

end FilterRequest

/-- The options in a row of letters, and the one whose value is the next
argument. None if there is no such option. -/
def optionRow? (plain valued : List Char) :
    List Char → Option (List (Char × List Char) × Option Char)
  | [] => some ([], none)
  | c :: rest =>
    if valued.contains c then
      some (if rest.isEmpty then ([], some c) else ([(c, rest)], none))
    else if plain.contains c then
      (optionRow? plain valued rest).map fun (found, waiting) =>
        ((c, []) :: found, waiting)
    else none

/-- The options and operands of some arguments. `waiting` is the option whose
value comes next. A row of digits is the value of the option `n`. -/
def filterRequest? (plain valued : List Char) :
    (waiting : Option Char) → List (List Char) → Option FilterRequest
  | some _, [] => none
  | none, [] => some {}
  | some c, value :: rest =>
    (filterRequest? plain valued none rest).map fun r =>
      { r with options := (c, value) :: r.options }
  | none, arg :: rest =>
    match arg with
    | ['-', '-'] => some { operands := rest }
    | '-' :: c :: row =>
      if (c :: row).all isAsciiDigit && valued.contains 'n' then
        (filterRequest? plain valued none rest).map fun r =>
          { r with options := ('n', c :: row) :: r.options }
      else
        match optionRow? plain valued (c :: row) with
        | some (found, waiting) =>
          (filterRequest? plain valued waiting rest).map fun r =>
            { r with options := found ++ r.options }
        | none => none
    | operand =>
      (filterRequest? plain valued none rest).map fun r =>
        { r with operands := operand :: r.operands }

/-- A filter. -/
structure Filter where
  /-- The letters of options without and with a value. -/
  plain : String := ""
  valued : String := ""
  /-- How many operands are its own. -/
  own : FilterRequest → Nat := fun _ => 0
  /-- What it makes of a text; none if it cannot be asked for this. -/
  apply : FilterRequest → List Char → Option Filtered

-- ===== lines

/-- The lines of a text, with their ends; the last one may have none. -/
def linesWithEnds : List Char → List (List Char)
  | [] => []
  | c :: rest =>
    if c == '\n' then [c] :: linesWithEnds rest
    else
      match linesWithEnds rest with
      | [] => [[c]]
      | line :: lines => (c :: line) :: lines

/-- The lines of a text. -/
def linesOf (cs : List Char) : List (List Char) :=
  (linesWithEnds cs).map fun line =>
    if line.getLast? == some '\n' then line.dropLast else line

/-- Lines, with an end after each. -/
def textOf (lines : List (List Char)) : List Char := lines.flatMap (· ++ ['\n'])

/-- The number that some digits stand for. -/
def count? (cs : List Char) : Option Nat := (String.ofList cs).toNat?

/-- The first lines or bytes of a text; a number below zero leaves the last
ones out. -/
def headOf (r : FilterRequest) (cs : List Char) : Option Filtered := do
  let part {α : Type} (amount : List Char) (items : List α) : Option (List α) :=
    match amount with
    | '-' :: amount =>
      (count? amount).map fun n => items.take (items.length - n)
    | amount => (count? amount).map items.take
  match r.value? 'c' with
  | some amount => return { printed := ← part amount cs }
  | none =>
    return {
      printed :=
        (← part ((r.value? 'n').getD ['1', '0']) (linesWithEnds cs)).flatten }

/-- The last lines or bytes of a text; a number with a sign tells where they
begin. -/
def tailOf (r : FilterRequest) (cs : List Char) : Option Filtered := do
  let part {α : Type} (amount : List Char) (items : List α) : Option (List α) :=
    match amount with
    | '+' :: amount => (count? amount).map fun n => items.drop (n - 1)
    | '-' :: amount | amount =>
      (count? amount).map fun n => items.drop (items.length - n)
  match r.value? 'c' with
  | some amount => return { printed := ← part amount cs }
  | none =>
    return {
      printed :=
        (← part ((r.value? 'n').getD ['1', '0']) (linesWithEnds cs)).flatten }

/-- A number with spaces before it, up to a width. -/
def inWidth (width n : Nat) : List Char :=
  let digits := (toString n).toList
  List.replicate (width - digits.length) ' ' ++ digits

/-- The lines, words and bytes of a text. -/
def countsOf (r : FilterRequest) (cs : List Char) : Option Filtered :=
  let every := r.options.isEmpty
  let words :=
    (splitWhere (fun c => isAscii c && isBlank c) cs).filter fun w => !w.isEmpty
  let counts := (if every || r.has 'l' then [cs.count '\n'] else [])
    ++ (if every || r.has 'w' then [words.length] else [])
    ++ (if r.has 'm' then [cs.length] else [])
    ++ (if every || r.has 'c' then [cs.length] else [])
  let width := if counts.length == 1 then 1 else if r.operands.isEmpty then 7
    else (toString cs.length).length
  let shown := [' '].intercalate (counts.map (inWidth width))
  let name := match r.operands with
    | [name] => ' ' :: name
    | _ => []
  some { printed := shown ++ name ++ ['\n'] }

/-- The number that a line begins with, for the order of lines. -/
def leadingNumber (line : List Char) : Int :=
  match line.dropWhile isBlank with
  | '-' :: rest => -((count? (rest.takeWhile isAsciiDigit)).getD 0 : Nat)
  | rest => ((count? (rest.takeWhile isAsciiDigit)).getD 0 : Nat)

/-- Items of which no two that are next to each other are the same. -/
def withoutRepeats {α : Type} (same : α → α → Bool) : List α → List α
  | a :: b :: rest =>
    if same a b then withoutRepeats same (a :: rest)
    else a :: withoutRepeats same (b :: rest)
  | items => items
termination_by items => items.length

/-- The lines of a text in order. -/
def sorted (r : FilterRequest) (cs : List Char) : Option Filtered :=
  let number (line : List Char) : Int :=
    if r.has 'n' then leadingNumber line else 0
  let before (a b : List Char) : Bool :=
    number a < number b || (number a == number b && a < b)
  let lines := (linesOf cs).mergeSort fun a b =>
    if r.has 'r' then !before a b else !before b a
  let lines := if r.has 'u' then
      withoutRepeats
        (fun a b => if r.has 'n' then number a == number b else a == b) lines
    else lines
  some { printed := textOf lines }

/-- The lines of a text, with those that repeat the line before left out. -/
def distinct (r : FilterRequest) (cs : List Char) : Option Filtered :=
  let groups := (linesOf cs).splitBy (· == ·)
  let kept := groups.filter fun lines =>
    !(r.has 'd' && lines.length == 1) && !(r.has 'u' && lines.length > 1)
  let shown (lines : List (List Char)) : List Char :=
    (if r.has 'c' then inWidth 7 lines.length ++ [' '] else [])
      ++ lines.headD []
  some { printed := textOf (kept.map shown) }

/-- Ranges of places, counted from one; without an end, up to the last place. -/
def placeRanges? (cs : List Char) : Option (List (Nat × Option Nat)) :=
  (splitOn ',' cs).mapM fun part =>
    match splitFirst? '-' part with
    | none => (count? part).map fun n => (n, some n)
    | some ([], last) => (count? last).map fun n => (1, some n)
    | some (first, []) => (count? first).map fun n => (n, none)
    | some (first, last) => do return (← count? first, some (← count? last))

/-- Parts of the lines of a text: bytes, or fields between the marks. -/
def partsOfLines (r : FilterRequest) (cs : List Char) : Option Filtered := do
  let chosen {α : Type} (ranges : List (Nat × Option Nat)) (items : List α) :
      List α :=
    (items.zipIdx 1).filterMap fun (item, place) =>
      if ranges.any fun (first, last) =>
          first ≤ place && last.all (place ≤ ·) then some item
      else none
  match (r.value? 'c').or (r.value? 'b') with
  | some list =>
    let ranges ← placeRanges? list
    return { printed := textOf ((linesOf cs).map (chosen ranges)) }
  | none =>
    let ranges ← placeRanges? (← r.value? 'f')
    let mark ← (match r.value? 'd' with
      | some [mark] => some mark
      | some _ => none
      | none => some '\t')
    let line (line : List Char) : Option (List Char) :=
      if line.contains mark then
        some ([mark].intercalate (chosen ranges (splitOn mark line)))
      else if r.has 's' then none
      else some line
    return { printed := textOf ((linesOf cs).filterMap line) }

/-- The lines of a text, each backwards. -/
def reversedLines (_ : FilterRequest) (cs : List Char) : Option Filtered :=
  let backwards (line : List Char) : List Char :=
    if line.getLast? == some '\n' then line.dropLast.reverse ++ ['\n']
    else line.reverse
  some { printed := (linesWithEnds cs).flatMap backwards }

-- ===== characters

/-- A class of characters by its name, in order. -/
def classChars? (name : String) : Option (List Char) :=
  let range (first last : Char) : List Char :=
    (List.range (last.toNat + 1 - first.toNat)).map fun n =>
      Char.ofNat (first.toNat + n)
  let upper := range 'A' 'Z'
  let lower := range 'a' 'z'
  let digit := range '0' '9'
  match name with
  | "upper" => some upper
  | "lower" => some lower
  | "digit" => some digit
  | "alpha" => some (upper ++ lower)
  | "alnum" => some (digit ++ upper ++ lower)
  | "space" => some (range '\t' '\r' ++ [' '])
  | "blank" => some ['\t', ' ']
  | "punct" =>
    some (range '!' '/' ++ range ':' '@' ++ range '[' (Char.ofNat 96)
      ++ range '\x7b' '~')
  | "xdigit" => some (digit ++ range 'A' 'F' ++ range 'a' 'f')
  | "cntrl" => some (range '\x00' '\x1f' ++ ['\x7f'])
  | "print" => some (range ' ' '~')
  | "graph" => some (range '!' '~')
  | _ => none

/-- The character that a backslash makes of the text behind it. -/
def escapedChar (cs : List Char) : Char × List Char :=
  match leadingDigits 8 3 cs with
  | [] =>
    match cs with
    | c :: rest =>
      (((letterByte? c).map fun b => Char.ofNat b.toNat).getD c, rest)
    | [] => ('\\', [])
  | digits => (Char.ofNat (byteIn 8 digits).toNat, cs.drop digits.length)

/-- The characters that a row of characters, ranges and classes stands for. -/
def exchangeChars? : (fuel : Nat) → List Char → Option (List Char)
  | 0, _ => none
  | _, [] => some []
  | fuel + 1, '[' :: ':' :: rest => do
    let (name, rest) ← splitAtText? [':', ']'] rest
    return (← classChars? (String.ofList name)) ++ (← exchangeChars? fuel rest)
  | fuel + 1, c :: rest => do
    let single (c : Char) (rest : List Char) : Char × List Char :=
      if c == '\\' then escapedChar rest else (c, rest)
    let (first, rest) := single c rest
    match rest with
    | '-' :: d :: rest =>
      let (last, rest) := single d rest
      guard (first.toNat ≤ last.toNat)
      let range := (List.range (last.toNat + 1 - first.toNat)).map fun n =>
        Char.ofNat (first.toNat + n)
      return range ++ (← exchangeChars? fuel rest)
    | rest => return first :: (← exchangeChars? fuel rest)

/-- The characters of a text exchanged for others, or left out. -/
def exchanged (r : FilterRequest) (cs : List Char) : Option Filtered := do
  let complement (set : List Char) : List Char :=
    if r.has 'c' || r.has 'C' then
      ((List.range 256).map Char.ofNat).filter fun c => !set.contains c
    else set
  let squeeze (set cs : List Char) : List Char :=
    if r.has 's' then withoutRepeats (fun a b => a == b && set.contains a) cs
    else cs
  let sets ← r.operands.mapM fun set => exchangeChars? (set.length + 1) set
  match r.has 'd', sets with
  | true, [first] =>
    guard (!r.has 's')
    let first := complement first
    return { printed := cs.filter fun c => !first.contains c }
  | true, [first, second] =>
    guard (r.has 's')
    let first := complement first
    return { printed := squeeze second (cs.filter fun c => !first.contains c) }
  | false, [first] =>
    guard (r.has 's')
    return { printed := squeeze (complement first) cs }
  | false, [first, second] =>
    let last ← second.getLast?
    let first := complement first
    let pairs :=
      first.zip (second ++ List.replicate (first.length - second.length) last)
    let exchange (c : Char) : Char :=
      ((pairs.reverse.find? (·.1 == c)).map (·.2)).getD c
    return { printed := squeeze second (cs.map exchange) }
  | _, _ => none

/-- The filters of lines and characters. -/
def plainFilter? (name : String) : Option Filter :=
  match name with
  | "head" => some { valued := "nc", apply := headOf }
  | "tail" => some { valued := "nc", apply := tailOf }
  | "wc" => some { plain := "lwcm", apply := countsOf }
  | "sort" => some { plain := "nru", apply := sorted }
  | "uniq" => some { plain := "cdu", apply := distinct }
  | "cut" => some { plain := "s", valued := "dfcb", apply := partsOfLines }
  | "rev" => some { apply := reversedLines }
  | "tac" =>
    some {
      apply := fun _ cs =>
        some { printed := (linesWithEnds cs).reverse.flatten } }
  | "tr" =>
    some {
      plain := "dscC", own := fun r => r.operands.length,
      apply := exchanged }
  | _ => none

end Overlay.CommandLine
