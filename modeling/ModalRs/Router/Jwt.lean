/-
  File:      ModalRs/Router/Jwt.lean
  Subject:   The expiry of a token: base64 and JSON come from libraries, which are parameters.
-/
import ModalRs.Error
import ModalRs.Rust.Float

namespace ModalRs

open ModalRs.Rust

/-- `base64` and `serde_json`, as far as tokens use them: decoding, parsing, and the accessors of a
    JSON value. Errors are their texts. -/
structure JwtLibs where
  Value : Type
  decodeUrlSafeNoPad : List Char → Except String (List UInt8)
  fromSlice : List UInt8 → Except String Value
  get : Value → String → Option Value
  asI64 : Value → Option Int64
  asF64 : Value → Option F64
  display : Value → String

/-- Parse JWT expiration from a JWT token string: the exp claim, if there is one, or an error if
    the token is malformed. -/
def parseJwtExpiration (lib : JwtLibs) (jwt : String) : Except ModalError (Option Int64) :=
  match jwt.toList.splitOn '.' with
  | [_, payloadB64, _] =>
      match lib.decodeUrlSafeNoPad payloadB64 with
      | .error e => .error (.other ("malformed JWT: base64 decode: " ++ e))
      | .ok payloadJson =>
          match lib.fromSlice payloadJson with
          | .error e => .error (.other ("malformed JWT: json unmarshal: " ++ e))
          | .ok payload =>
              match lib.get payload "exp" with
              | none => .ok none
              | some expVal =>
                  match (lib.asI64 expVal).or ((lib.asF64 expVal).map F64.asI64) with
                  | some exp => .ok (some exp)
                  | none => .error (.other ("malformed JWT: exp not an integer: " ++
                      lib.display expVal))
  | parts => .error (.other ("malformed JWT: expected 3 parts, got " ++ toString parts.length))

/-- The expiry that is stored with a token: none if it cannot be read. -/
def expiryOf (lib : JwtLibs) (jwt : String) : Option Int64 :=
  (parseJwtExpiration lib jwt).toOption.join

/-- Libraries that can read a few payloads: an object that is empty, or has an expiry below 10. -/
def sampleLibs : JwtLibs where
  Value := Option Int64
  decodeUrlSafeNoPad payload :=
    if payload = "e30".toList then .ok [0x7b, 0x7d]
    else if payload = "eyJleHAiOjF9".toList then
      .ok [0x7b, 0x22, 0x65, 0x78, 0x70, 0x22, 0x3a, 0x31, 0x7d]
    else if payload = "eyJleHAiOjJ9".toList then
      .ok [0x7b, 0x22, 0x65, 0x78, 0x70, 0x22, 0x3a, 0x32, 0x7d]
    else .error "not a sample"
  fromSlice
    | [0x7b, 0x7d] => .ok none
    | [0x7b, 0x22, 0x65, 0x78, 0x70, 0x22, 0x3a, digit, 0x7d] =>
        if 0x30 ≤ digit ∧ digit ≤ 0x39 then .ok (some (digit - 0x30).toUInt64.toInt64)
        else .error "not a sample"
    | _ => .error "not a sample"
  get value key := if key = "exp" then value.map some else none
  asI64 value := value
  asF64 _ := none
  display value := match value with
    | none => "null"
    | some exp => toString exp.toInt

example : expiryOf sampleLibs "h.eyJleHAiOjJ9.s" = some 2 := by decide

theorem expiryOf_ok {lib : JwtLibs} {jwt : String} {exp : Option Int64}
    (h : parseJwtExpiration lib jwt = .ok exp) : expiryOf lib jwt = exp := by
  rw [expiryOf, h]
  rfl

end ModalRs
