import NodeNet.Lib.Text

/-! The texts that are JSON, byte by byte, as the recursive grammar has them. -/
namespace NodeNet.JsonText

def isSpace (c : UInt8) : Bool := c = 0x20 || c = 0x09 || c = 0x0A || c = 0x0D

def isDigit (c : UInt8) : Bool := 0x30 ≤ c && c ≤ 0x39

def isHexDigit (c : UInt8) : Bool :=
  isDigit c || (0x41 ≤ c && c ≤ 0x46) || (0x61 ≤ c && c ≤ 0x66)

/-- What may stand behind a backslash, apart from the four digits of a code unit. -/
def escapes : Text := [0x22, 0x5C, 0x2F, 0x62, 0x66, 0x6E, 0x72, 0x74]

def Spaces (t : Text) : Prop := ∀ c ∈ t, isSpace c = true

def Digits (t : Text) : Prop := t ≠ [] ∧ ∀ c ∈ t, isDigit c = true

/-- What may stand between the quotes of a string. -/
inductive StringBody : Text → Prop
  | nil : StringBody []
  | plain {c : UInt8} {t : Text} (hcontrol : 0x20 ≤ c) (hquote : c ≠ 0x22) (hescape : c ≠ 0x5C)
      (h : StringBody t) : StringBody (c :: t)
  | escape {c : UInt8} {t : Text} (hc : c ∈ escapes) (h : StringBody t) :
      StringBody (0x5C :: c :: t)
  | unicode {digits t : Text} (hlength : digits.length = 4)
      (hdigits : ∀ c ∈ digits, isHexDigit c = true) (h : StringBody t) :
      StringBody (0x5C :: 0x75 :: (digits ++ t))

def quoted (t : Text) : Text := 0x22 :: (t ++ [0x22])

def Fraction (t : Text) : Prop := t = [] ∨ ∃ digits, Digits digits ∧ t = 0x2E :: digits

def Exponent (t : Text) : Prop :=
  t = [] ∨ ∃ e sign digits, e ∈ ([0x65, 0x45] : Text) ∧ sign ∈ ([[], [0x2B], [0x2D]] : List Text) ∧
    Digits digits ∧ t = e :: (sign ++ digits)

inductive Number : Text → Prop
  | mk {sign whole fraction exponent : Text} (hsign : sign ∈ ([[], [0x2D]] : List Text))
      (hwhole : Digits whole) (hzero : whole.head? = some 0x30 → whole = [0x30])
      (hfraction : Fraction fraction) (hexponent : Exponent exponent) :
      Number (sign ++ whole ++ fraction ++ exponent)

def literals : List Text :=
  ["true", "false", "null"].map fun name => name.toList.map fun c => UInt8.ofNat c.toNat

inductive Part where
  | value | object | members | element | elements

inductive Derives : Part → Text → Prop
  | literal {t : Text} (h : t ∈ literals) : Derives .value t
  | number {t : Text} (h : Number t) : Derives .value t
  | string {t : Text} (h : StringBody t) : Derives .value (quoted t)
  | ofObject {t : Text} (h : Derives .object t) : Derives .value t
  | emptyArray {s : Text} (hs : Spaces s) : Derives .value (0x5B :: (s ++ [0x5D]))
  | array {t : Text} (h : Derives .elements t) : Derives .value (0x5B :: (t ++ [0x5D]))
  | emptyObject {s : Text} (hs : Spaces s) : Derives .object (0x7B :: (s ++ [0x7D]))
  | object {t : Text} (h : Derives .members t) : Derives .object (0x7B :: (t ++ [0x7D]))
  | element {s t s' : Text} (hs : Spaces s) (h : Derives .value t) (hs' : Spaces s') :
      Derives .element (s ++ t ++ s')
  | ofElement {t : Text} (h : Derives .element t) : Derives .elements t
  | elements {t rest : Text} (h : Derives .elements t) (hrest : Derives .elements rest) :
      Derives .elements (t ++ 0x2C :: rest)
  | member {s key s' t : Text} (hs : Spaces s) (hkey : StringBody key) (hs' : Spaces s')
      (h : Derives .element t) : Derives .members (s ++ quoted key ++ s' ++ 0x3A :: t)
  | members {t rest : Text} (h : Derives .members t) (hrest : Derives .members rest) :
      Derives .members (t ++ 0x2C :: rest)

def IsObject (t : Text) : Prop := Derives .object t

end NodeNet.JsonText
