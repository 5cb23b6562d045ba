/-! .NET strings as their UTF-16 code units: lines, trimming, splitting and number literals. -/
namespace NodeNet.Chars

abbrev CodeUnits := List UInt16

def ch (c : Char) : UInt16 := UInt16.ofNat c.toNat

def lit (s : String) : CodeUnits := s.toList.map ch

def isWhiteSpace (c : UInt16) : Bool :=
  (9 ≤ c && c ≤ 13) || (0x2000 ≤ c && c ≤ 0x200A) ||
    [0x20, 0x85, 0xA0, 0x1680, 0x2028, 0x2029, 0x202F, 0x205F, 0x3000].contains c

def isNullOrWhiteSpace (s : CodeUnits) : Bool := s.all isWhiteSpace

def trimEnd (s : CodeUnits) : CodeUnits := (s.reverse.dropWhile isWhiteSpace).reverse

def trim (s : CodeUnits) : CodeUnits := trimEnd (s.dropWhile isWhiteSpace)

/-- The lines of a text; a carriage return takes a line feed behind it along. -/
def linesFrom (line : CodeUnits) : CodeUnits → List CodeUnits
  | [] => if line = [] then [] else [line]
  | c :: cs =>
    if c = 13 then
      match cs with
      | [] => [line]
      | d :: ds => line :: (if d = 10 then linesFrom [] ds else linesFrom [] (d :: ds))
    else if c = 10 then line :: linesFrom [] cs
    else linesFrom (line ++ [c]) cs

def readLines (s : CodeUnits) : List CodeUnits := linesFrom [] s

/-- The parts between separators, without the empty ones. -/
def splitFrom (separator : UInt16 → Bool) (part : CodeUnits) : CodeUnits → List CodeUnits
  | [] => if part = [] then [] else [part]
  | c :: cs =>
    if separator c then (if part = [] then [] else [part]) ++ splitFrom separator [] cs
    else splitFrom separator (part ++ [c]) cs

def split (separator : UInt16 → Bool) (s : CodeUnits) : List CodeUnits := splitFrom separator [] s

-- No letter outside ASCII has an upper case in it, so the rest decides no comparison with a word.
def toUpper (s : CodeUnits) : CodeUnits :=
  s.map fun c => if 0x61 ≤ c && c ≤ 0x7A then c - 0x20 else c

def isDigit (c : UInt16) : Bool := 0x30 ≤ c && c ≤ 0x39

def isNumberWhite (c : UInt16) : Bool := c = 0x20 || (9 ≤ c && c ≤ 13)

def digitsValue (digits : CodeUnits) : Nat := digits.foldl (fun n c => n * 10 + (c.toNat - 0x30)) 0

inductive NumberError where
  | format | overflow | argument
  deriving DecidableEq

/-- An unsigned part of a number: digits, then white space, then zero characters at most. -/
def parseDigits (s : CodeUnits) : Except NumberError Nat :=
  let digits := s.takeWhile isDigit
  if digits = [] then .error .format
  else if (((s.dropWhile isDigit).dropWhile isNumberWhite).all (· = 0)) then
    .ok (digitsValue digits)
  else .error .format

def parseInteger (s : CodeUnits) : Except NumberError Int :=
  match s.dropWhile isNumberWhite with
  | [] => .error .format
  | c :: cs =>
    if c = ch '-' then (parseDigits cs).map fun n => -(n : Int)
    else if c = ch '+' then (parseDigits cs).map Int.ofNat
    else (parseDigits (c :: cs)).map Int.ofNat

def toUInt32 (s : CodeUnits) : Except NumberError UInt32 :=
  (parseInteger s).bind fun v =>
    if 0 ≤ v ∧ v < 4294967296 then .ok (UInt32.ofNat v.toNat) else .error .overflow

def toInt32 (s : CodeUnits) : Except NumberError Int :=
  (parseInteger s).bind fun v =>
    if -2147483648 ≤ v ∧ v ≤ 2147483647 then .ok v else .error .overflow

def hexDigit (c : UInt16) : Option Nat :=
  if isDigit c then some (c.toNat - 0x30)
  else if 0x61 ≤ c && c ≤ 0x66 then some (c.toNat - 0x61 + 10)
  else if 0x41 ≤ c && c ≤ 0x46 then some (c.toNat - 0x41 + 10)
  else none

/-- Hexadecimal digits to the end of the text. -/
def hexValue (n : Nat) : CodeUnits → Except NumberError Nat
  | [] => .ok n
  | c :: cs =>
    match hexDigit c with
    | none => .error .format
    | some d => if n * 16 + d < 4294967296 then hexValue (n * 16 + d) cs else .error .overflow

def startsWith0x (s : CodeUnits) : Bool := toUpper (s.take 2) = lit "0X"

/-- A hexadecimal number, which may have a plus sign and a prefix of its own. -/
def toUInt32Hex (s : CodeUnits) : Except NumberError UInt32 :=
  match s with
  | [] => .error .argument
  | c :: cs =>
    if c = ch '-' then .error .argument
    else
      let s := if c = ch '+' then cs else c :: cs
      let s := if startsWith0x s then s.drop 2 else s
      if s = [] then .error .format else (hexValue 0 s).map UInt32.ofNat

end NodeNet.Chars
