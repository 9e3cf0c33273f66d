/-
  File:      ModalRs/Rust/Parse.lean
  Subject:   Text from bytes and numbers from text: `String::from_utf8` and `str::parse`.

  * `fromUtf8`: the string a byte string encodes, or the `Utf8Error` that the
    standard library's left-to-right scan reports first.
  * `parseI64`, `parseU32`, `parseU64`: `str::parse` for integers, with its
    `IntErrorKind`s in the order the digits are read.
  * `parseF64`: `str::parse::<f64>`, correctly rounded to nearest-even; a
    float is its 64-bit pattern (`F64`).
-/
import Mathlib.Logic.Basic
import ModalRs.Rust.Outcome

namespace ModalRs.Rust

/-! ## 1. UTF-8 -/

/-- `std::str::Utf8Error`. -/
structure Utf8Error where
  validUpTo : Nat
  errorLen : Option Nat
  deriving DecidableEq, Repr

/-- Its `Display` text. -/
def Utf8Error.display (e : Utf8Error) : String :=
  match e.errorLen with
  | some n => "invalid utf-8 sequence of " ++ toString n ++ " bytes from index " ++
      toString e.validUpTo
  | none => "incomplete utf-8 byte sequence from index " ++ toString e.validUpTo

def isContinuation (b : UInt8) : Bool := 0x80 ≤ b && b ≤ 0xBF

/-- The second bytes a first byte of a three- or four-byte sequence admits. -/
def secondOk (b₀ b₁ : UInt8) : Bool :=
  if b₀ == 0xE0 then 0xA0 ≤ b₁ && b₁ ≤ 0xBF
  else if b₀ == 0xED then 0x80 ≤ b₁ && b₁ ≤ 0x9F
  else if b₀ == 0xF0 then 0x90 ≤ b₁ && b₁ ≤ 0xBF
  else if b₀ == 0xF4 then 0x80 ≤ b₁ && b₁ ≤ 0x8F
  else isContinuation b₁

/-- One sequence of the scan: its width, or the `error_len` at its first bad byte. -/
def utf8Sequence (b₀ : UInt8) (rest : List UInt8) : Except (Option Nat) Nat :=
  if b₀ < 0x80 then .ok 1
  else if 0xC2 ≤ b₀ && b₀ ≤ 0xDF then
    match rest with
    | [] => .error none
    | b₁ :: _ => if isContinuation b₁ then .ok 2 else .error (some 1)
  else if 0xE0 ≤ b₀ && b₀ ≤ 0xEF then
    match rest with
    | [] => .error none
    | b₁ :: rest =>
        if !secondOk b₀ b₁ then .error (some 1)
        else match rest with
          | [] => .error none
          | b₂ :: _ => if isContinuation b₂ then .ok 3 else .error (some 2)
  else if 0xF0 ≤ b₀ && b₀ ≤ 0xF4 then
    match rest with
    | [] => .error none
    | b₁ :: rest =>
        if !secondOk b₀ b₁ then .error (some 1)
        else match rest with
          | [] => .error none
          | b₂ :: rest =>
              if !isContinuation b₂ then .error (some 2)
              else match rest with
                | [] => .error none
                | b₃ :: _ => if isContinuation b₃ then .ok 4 else .error (some 3)
  else .error (some 1)

/-- The first error of the scan that starts at index `i`; at most `fuel` sequences are read. -/
def utf8ScanError : Nat → Nat → List UInt8 → Utf8Error
  | 0, i, _ => ⟨i, none⟩
  | _ + 1, i, [] => ⟨i, none⟩
  | fuel + 1, i, b :: bs =>
      match utf8Sequence b bs with
      | .ok w => utf8ScanError fuel (i + w) ((b :: bs).drop w)
      | .error len => ⟨i, len⟩

/-- `String::from_utf8` (and `std::str::from_utf8`). -/
def fromUtf8 (bytes : List UInt8) : Except Utf8Error String :=
  match String.fromUTF8? ⟨bytes.toArray⟩ with
  | some s => .ok s
  | none => .error (utf8ScanError bytes.length 0 bytes)

/-- `str::as_bytes`. -/
def asBytes (s : String) : List UInt8 := s.toByteArray.data.toList

/-- The bytes of a string read back as that string. -/
theorem fromUtf8_asBytes (s : String) : fromUtf8 (asBytes s) = .ok s := by
  have hb : (⟨(asBytes s).toArray⟩ : ByteArray) = s.toByteArray := by
    simp [asBytes]
  have hv : (⟨(asBytes s).toArray⟩ : ByteArray).IsValidUTF8 := hb ▸ s.isValidUTF8
  have hs : String.fromUTF8? ⟨(asBytes s).toArray⟩ = some s := by
    rw [String.fromUTF8?, dif_pos hv]
    exact congrArg some (String.toByteArray_inj.mp hb)
  simp only [fromUtf8, hs]

/-! ## 2. Integers -/

/-- `std::num::IntErrorKind`, as far as decimal `parse` reports it. -/
inductive IntErrorKind where
  | empty | invalidDigit | posOverflow | negOverflow
  deriving DecidableEq, Repr

/-- The `Display` text of a `ParseIntError`. -/
def IntErrorKind.display : IntErrorKind → String
  | .empty => "cannot parse integer from empty string"
  | .invalidDigit => "invalid digit found in string"
  | .posOverflow => "number too large to fit in target type"
  | .negOverflow => "number too small to fit in target type"

def digitVal (c : Char) : Option Nat :=
  if '0' ≤ c && c ≤ '9' then some (c.toNat - 48) else none

/-- Reads digits onto `acc`, refusing what passes `bound` with `overflow`. -/
def parseDigits (bound : Nat) (overflow : IntErrorKind) : Nat → List Char → Except IntErrorKind Nat
  | acc, [] => .ok acc
  | acc, c :: cs =>
      match digitVal c with
      | none => .error .invalidDigit
      | some d =>
          if acc * 10 + d ≤ bound then parseDigits bound overflow (acc * 10 + d) cs
          else .error overflow

/-- `parse` for an unsigned type with largest value `max`. -/
def parseUnsigned (max : Nat) : List Char → Except IntErrorKind Nat
  | [] => .error .empty
  | ['+'] => .error .invalidDigit
  | ['-'] => .error .invalidDigit
  | '+' :: cs => parseDigits max .posOverflow 0 cs
  | cs => parseDigits max .posOverflow 0 cs

/-- `parse` for a signed type of values `-max - 1 … max`. -/
def parseSigned (max : Nat) : List Char → Except IntErrorKind Int
  | [] => .error .empty
  | ['+'] => .error .invalidDigit
  | ['-'] => .error .invalidDigit
  | '+' :: cs => (parseDigits max .posOverflow 0 cs).map Int.ofNat
  | '-' :: cs => (parseDigits (max + 1) .negOverflow 0 cs).map fun n => -Int.ofNat n
  | cs => (parseDigits max .posOverflow 0 cs).map Int.ofNat

/-- `parse::<u32>`. -/
def parseU32 (cs : List Char) : Except IntErrorKind UInt32 :=
  (parseUnsigned (2 ^ 32 - 1) cs).map UInt32.ofNat

/-- `parse::<u64>`. -/
def parseU64 (cs : List Char) : Except IntErrorKind UInt64 :=
  (parseUnsigned (2 ^ 64 - 1) cs).map UInt64.ofNat

/-- `parse::<i64>`. -/
def parseI64 (cs : List Char) : Except IntErrorKind Int64 :=
  (parseSigned (2 ^ 63 - 1) cs).map Int64.ofInt

/-! ## 3. Floats -/

/-- An `f64`, as its bit pattern. -/
abbrev F64 : Type := UInt64

/-- The kinds of a `ParseFloatError`. -/
inductive FloatErrorKind where
  | empty | invalid
  deriving DecidableEq, Repr

def FloatErrorKind.display : FloatErrorKind → String
  | .empty => "cannot parse float from empty string"
  | .invalid => "invalid float literal"

/-- `num / den` rounded to the nearest natural, ties to even. -/
def divRoundEven (num den : Nat) : Nat :=
  let q := num / den
  let r := num % den
  if 2 * r < den then q else if den < 2 * r then q + 1 else q + q % 2

def f64Infinity : Nat := 0x7FF0000000000000

/-- The bits of the double nearest to `num / den` (both positive). The significand is scaled to
    53 bits, or to the subnormal spacing `2 ^ (-1074)` below that; a carry out of it moves into
    the exponent field by itself. -/
def f64OfRatio (num den : Nat) : Nat :=
  let e₀ : Int := (Nat.log2 num : Int) - Nat.log2 den
  let atLeast : Bool :=
    if 0 ≤ e₀ then den * 2 ^ e₀.toNat ≤ num else den ≤ num * 2 ^ (-e₀).toNat
  let e := if atLeast then e₀ else e₀ - 1
  let s := max (e - 52) (-1074)
  let q := if 0 ≤ s then divRoundEven num (den * 2 ^ s.toNat)
    else divRoundEven (num * 2 ^ (-s).toNat) den
  min ((s + 1074).toNat * 2 ^ 52 + q) f64Infinity

/-- The bits of the double nearest to `m * 10 ^ e`. Exponents that are far outside the range of
    doubles are settled without forming the power of ten. -/
def f64OfDecimal (m : Nat) (e : Int) : Nat :=
  let digits : Int := (Nat.toDigits 10 m).length
  if m = 0 then 0
  else if 320 < e + digits then f64Infinity
  else if e + digits < -340 then 0
  else if 0 ≤ e then f64OfRatio (m * 10 ^ e.toNat) 1
  else f64OfRatio m (10 ^ (-e).toNat)

def digitsVal (cs : List Char) : Nat := cs.foldl (fun n c => n * 10 + (c.toNat - 48)) 0

def isDigit (c : Char) : Bool := '0' ≤ c && c ≤ '9'

/-- `Exp?`: the exponent the rest of a number spells, if it spells one or is empty. -/
def parseExponent : List Char → Option Int
  | [] => some 0
  | c :: cs =>
      if c == 'e' || c == 'E' then
        let (neg, ds) := match cs with
          | '-' :: ds => (true, ds)
          | '+' :: ds => (false, ds)
          | ds => (false, ds)
        if ds.isEmpty || !ds.all isDigit then none
        else some (if neg then -(digitsVal ds : Int) else digitsVal ds)
      else none

/-- `Number`: digits with an optional point among them and an optional exponent. -/
def parseNumber (cs : List Char) : Option Nat :=
  let ints := cs.takeWhile isDigit
  let rest := cs.dropWhile isDigit
  let (fracs, rest) := match rest with
    | '.' :: ds => (ds.takeWhile isDigit, ds.dropWhile isDigit)
    | rest => ([], rest)
  if ints.isEmpty && fracs.isEmpty then none
  else (parseExponent rest).map fun e =>
    f64OfDecimal (digitsVal (ints ++ fracs)) (e - fracs.length)

def toAsciiLowercase (c : Char) : Char := if 'A' ≤ c && c ≤ 'Z' then Char.ofNat (c.toNat + 32) else c

/-- The bits of `inf`, `infinity` and `nan`, in any letter case. -/
def parseInfNan (cs : List Char) : Option Nat :=
  let low := String.ofList (cs.map toAsciiLowercase)
  if low == "inf" || low == "infinity" then some f64Infinity
  else if low == "nan" then some 0x7FF8000000000000
  else none

/-- `parse::<f64>`. -/
def parseF64 (cs : List Char) : Except FloatErrorKind F64 :=
  let unsigned (neg : Bool) (cs : List Char) : Except FloatErrorKind F64 :=
    match (parseNumber cs).or (parseInfNan cs) with
    | some bits => .ok (UInt64.ofNat (if neg then bits + 2 ^ 63 else bits))
    | none => .error .invalid
  match cs with
  | [] => .error .empty
  | '-' :: cs => if cs.isEmpty then .error .invalid else unsigned true cs
  | '+' :: cs => if cs.isEmpty then .error .invalid else unsigned false cs
  | cs => unsigned false cs

end ModalRs.Rust
