/-
PyWebTransport.Protocol.FieldGrammar — the grammar of the protocol headers.

`WT-Available-Protocols` is a structured-field list of strings and
`WT-Protocol` a single one; each string may carry parameters, which are
thrown away but have to be well formed. There is one predicate for each
rule. What ends a word is the same everywhere: nothing, a blank, a comma or
the semicolon of the next parameter.
-/
import PyWebTransport.Lib.Scan
import PyWebTransport.Protocol.Utils

namespace PyWebTransport

open PyWebTransport.Lib

namespace Field

variable {rest : Bytes}

/-! ## The grammar -/

/-- The inside of a string, and the text it stands for. -/
inductive StringBody : List Char → Bytes → Prop where
  | nil : StringBody [] []
  | plain {byte : UInt8} {text : List Char} {body : Bytes} (printable : isPrintableAscii byte = true)
      (quote : byte ≠ 0x22) (backslash : byte ≠ 0x5C) (rest : StringBody text body) :
      StringBody (Char.ofNat byte.toNat :: text) (byte :: body)
  | escaped {byte : UInt8} {text : List Char} {body : Bytes} (special : byte = 0x22 ∨ byte = 0x5C)
      (rest : StringBody text body) :
      StringBody (Char.ofNat byte.toNat :: text) (0x5C :: byte :: body)

/-- `sf-string`. -/
inductive SfString : String → Bytes → Prop where
  | mk {text : List Char} {body : Bytes} (inside : StringBody text body) :
      SfString (String.ofList text) (0x22 :: (body ++ [0x22]))

def Sign (word : Bytes) : Prop := word = [] ∨ word = [0x2D]

def Digits (word : Bytes) : Prop := ∀ byte ∈ word, isAsciiDigit byte = true

/-- `sf-integer`, or `sf-decimal` if the flag is set. -/
inductive SfNumber : Bool → Bytes → Prop where
  | integer {sign digits : Bytes} (signed : Sign sign) (isDigits : Digits digits)
      (present : 1 ≤ digits.length) (few : digits.length ≤ 15) : SfNumber false (sign ++ digits)
  | decimal {sign digits fraction : Bytes} (signed : Sign sign) (isDigits : Digits digits)
      (present : 1 ≤ digits.length) (few : digits.length ≤ 12) (isFraction : Digits fraction)
      (places : 1 ≤ fraction.length) (fewPlaces : fraction.length ≤ 3) :
      SfNumber true (sign ++ (digits ++ 0x2E :: fraction))

def isTokenByte (byte : UInt8) : Bool :=
  isAsciiAlphanumeric byte || tokenSymbols.contains byte

/-- `sf-token`. -/
inductive SfToken : Bytes → Prop where
  | mk {first : UInt8} {rest : Bytes}
      (starts : first = 0x2A ∨ isAsciiUppercase first = true ∨ isAsciiLowercase first = true)
      (goesOn : ∀ byte ∈ rest, isTokenByte byte = true) : SfToken (first :: rest)

def isBase64Byte (byte : UInt8) : Bool :=
  isAsciiAlphanumeric byte || byte == 0x2B || byte == 0x2F

/-- `sf-binary`: base64 between colons. The padding may be left out. -/
inductive SfBinary : Bytes → Prop where
  | mk {data : Bytes} {padding : Nat} (alphabet : ∀ byte ∈ data, isBase64Byte byte = true)
      (length : data.length % 4 ≠ 1)
      (padded : padding = 0 ∨ (padding = 1 ∨ padding = 2) ∧ (data.length + padding) % 4 = 0) :
      SfBinary (0x3A :: (data ++ List.replicate padding 0x3D ++ [0x3A]))

/-- The inside of a display string, and the octets it stands for. -/
inductive DisplayBody : Bytes → Bytes → Prop where
  | nil : DisplayBody [] []
  | plain {byte : UInt8} {octets body : Bytes} (printable : isPrintableAscii byte = true)
      (percent : byte ≠ 0x25) (quote : byte ≠ 0x22) (rest : DisplayBody octets body) :
      DisplayBody (byte :: octets) (byte :: body)
  | escaped {high low h l : UInt8} {octets body : Bytes} (highDigit : hexDigitValue high = some h)
      (lowDigit : hexDigitValue low = some l) (rest : DisplayBody octets body) :
      DisplayBody ((h * 16 + l) :: octets) (0x25 :: high :: low :: body)

/-- `sf-displaystring`: the octets are valid UTF-8. -/
inductive SfDisplayString : Bytes → Prop where
  | mk {octets body : Bytes} (inside : DisplayBody octets body)
      (text : (utf8String? octets).isSome = true) :
      SfDisplayString (0x25 :: 0x22 :: (body ++ [0x22]))

inductive BareItem : Bytes → Prop where
  | number {isDecimal : Bool} {word : Bytes} (number : SfNumber isDecimal word) : BareItem word
  | string {text : String} {word : Bytes} (string : SfString text word) : BareItem word
  | token {word : Bytes} (token : SfToken word) : BareItem word
  | binary {word : Bytes} (binary : SfBinary word) : BareItem word
  | boolean {flag : UInt8} (bit : flag = 0x30 ∨ flag = 0x31) : BareItem [0x3F, flag]
  | date {word : Bytes} (integer : SfNumber false word) : BareItem (0x40 :: word)
  | display {word : Bytes} (display : SfDisplayString word) : BareItem word

/-- The name of a parameter. -/
inductive SfKey : Bytes → Prop where
  | mk {first : UInt8} {rest : Bytes} (starts : isAsciiLowercase first = true ∨ first = 0x2A)
      (goesOn : ∀ byte ∈ rest, isParameterKeyByte byte = true) : SfKey (first :: rest)

def Spaces (word : Bytes) : Prop := ∀ byte ∈ word, byte = 0x20

/-- Optional whitespace. -/
def Ows (word : Bytes) : Prop := ∀ byte ∈ word, isBlankByte byte = true

inductive Parameters : Bytes → Prop where
  | nil : Parameters []
  | flag {spaces key rest : Bytes} (blank : Spaces spaces) (named : SfKey key)
      (others : Parameters rest) : Parameters (0x3B :: (spaces ++ (key ++ rest)))
  | value {spaces key item rest : Bytes} (blank : Spaces spaces) (named : SfKey key)
      (bare : BareItem item) (others : Parameters rest) :
      Parameters (0x3B :: (spaces ++ (key ++ 0x3D :: (item ++ rest))))

/-- A string with its parameters. -/
def Member (text : String) (word : Bytes) : Prop :=
  ∃ string parameters, word = string ++ parameters ∧ SfString text string ∧ Parameters parameters

/-- Members with commas between them. -/
inductive Members : List String → Bytes → Prop where
  | one {text : String} {word : Bytes} (member : Member text word) : Members [text] word
  | cons {text : String} {texts : List String} {word before behind rest : Bytes}
      (member : Member text word) (blank : Ows before) (blank' : Ows behind)
      (others : Members texts rest) :
      Members (text :: texts) (word ++ (before ++ 0x2C :: (behind ++ rest)))

/-- The value of a `WT-Available-Protocols` header. -/
inductive ListField : List String → Bytes → Prop where
  | mk {texts : List String} {spaces word blanks : Bytes} (leading : Spaces spaces)
      (members : Members texts word) (trailing : Ows blanks) :
      ListField texts (spaces ++ (word ++ blanks))

/-- The value of a `WT-Protocol` header. -/
inductive ItemField : String → Bytes → Prop where
  | mk {text : String} {spaces word blanks : Bytes} (leading : Spaces spaces)
      (member : Member text word) (trailing : Spaces blanks) :
      ItemField text (spaces ++ (word ++ blanks))

/-! ## What ends a word -/

/-- What may come behind a member. -/
def endsMember (byte : UInt8) : Bool := byte == 0x2C || isBlankByte byte

/-- What may come behind the value of a parameter. -/
def endsItem (byte : UInt8) : Bool := byte == 0x3B || endsMember byte

abbrev MemberEnd : Bytes → Prop := Next fun byte => endsMember byte = true

abbrev ItemEnd : Bytes → Prop := Next fun byte => endsItem byte = true

theorem MemberEnd.itemEnd (h : MemberEnd rest) : ItemEnd rest :=
  h.imp fun byte hbyte => by rw [endsItem, hbyte, Bool.or_true]

theorem endsItem_cases {byte : UInt8} (h : endsItem byte = true) :
    byte = 0x3B ∨ byte = 0x2C ∨ byte = 0x20 ∨ byte = 0x09 := by
  simpa only [endsItem, endsMember, isBlankByte, Bool.or_eq_true, beq_iff_eq] using h

/-- A class of bytes that none of the ends is in. -/
theorem ItemEnd.outside (h : ItemEnd rest) {p : UInt8 → Bool}
    (hp : p 0x3B = false ∧ p 0x2C = false ∧ p 0x20 = false ∧ p 0x09 = false) :
    Next (fun byte => p byte = false) rest := by
  refine h.imp fun byte hbyte => ?_
  rcases endsItem_cases hbyte with rfl | rfl | rfl | rfl
  · exact hp.1
  · exact hp.2.1
  · exact hp.2.2.1
  · exact hp.2.2.2

end Field

end PyWebTransport
