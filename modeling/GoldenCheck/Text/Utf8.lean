import GoldenCheck.Text.Basic

/-!
# UTF-8

Files and paths hold bytes.  This module writes a text as UTF-8 and reads bytes
back, strictly (a file must be well formed) or leniently (a path is shown with
the replacement character for each ill-formed part).

The reader cuts the bytes into units.  A unit is a well-formed character or the
longest run of bytes that starts one without finishing it; a byte that starts
nothing is a unit of its own.
-/

namespace GoldenCheck

/-- A finite sequence of bytes. -/
abbrev Bytes := List UInt8

namespace Text

/-- Write a text as UTF-8. -/
def encode (text : Text) : Bytes :=
  text.flatMap String.utf8EncodeChar

/-- The payload of a continuation byte. -/
def payload (byte : UInt8) : Nat :=
  byte.toNat % 64

/-- Whether a byte lies between two bounds, both included. -/
def within (low high byte : UInt8) : Bool :=
  low ≤ byte && byte ≤ high

/-- Whether a byte continues a character. -/
def isContinuation (byte : UInt8) : Bool :=
  within 0x80 0xbf byte

/-- Whether `second` may follow the lead byte of a three-byte character.  The
bounds exclude overlong forms and surrogates. -/
def followsThree (lead second : UInt8) : Bool :=
  if lead = 0xe0 then within 0xa0 0xbf second
  else if lead = 0xed then within 0x80 0x9f second
  else isContinuation second

/-- Whether `second` may follow the lead byte of a four-byte character.  The
bounds exclude overlong forms and code points past the last one. -/
def followsFour (lead second : UInt8) : Bool :=
  if lead = 0xf0 then within 0x90 0xbf second
  else if lead = 0xf4 then within 0x80 0x8f second
  else isContinuation second

/-- Cut bytes into units: `some` a character, or `none` for an ill-formed
part. -/
def decodeUnits : Bytes → List (Option Char)
  | [] => []
  | lead :: rest =>
      if lead < 0x80 then
        some (Char.ofNat lead.toNat) :: decodeUnits rest
      else if within 0xc2 0xdf lead then
        match rest with
        | [] => [none]
        | second :: tail =>
            if isContinuation second then
              some (Char.ofNat (lead.toNat % 32 * 64 + payload second)) :: decodeUnits tail
            else
              none :: decodeUnits (second :: tail)
      else if within 0xe0 0xef lead then
        match rest with
        | [] => [none]
        | second :: tail =>
            if followsThree lead second then
              match tail with
              | [] => [none]
              | third :: tail =>
                  if isContinuation third then
                    some (Char.ofNat
                      ((lead.toNat % 16 * 64 + payload second) * 64 + payload third)) ::
                      decodeUnits tail
                  else
                    none :: decodeUnits (third :: tail)
            else
              none :: decodeUnits (second :: tail)
      else if within 0xf0 0xf4 lead then
        match rest with
        | [] => [none]
        | second :: tail =>
            if followsFour lead second then
              match tail with
              | [] => [none]
              | third :: tail =>
                  if isContinuation third then
                    match tail with
                    | [] => [none]
                    | fourth :: tail =>
                        if isContinuation fourth then
                          some (Char.ofNat
                            (((lead.toNat % 8 * 64 + payload second) * 64 + payload third) *
                              64 + payload fourth)) ::
                            decodeUnits tail
                        else
                          none :: decodeUnits (fourth :: tail)
                  else
                    none :: decodeUnits (third :: tail)
            else
              none :: decodeUnits (second :: tail)
      else
        none :: decodeUnits rest

/-- Read bytes that are wholly well formed. -/
def decode? (bytes : Bytes) : Option Text :=
  (decodeUnits bytes).mapM id

/-- The character shown for an ill-formed part. -/
def replacement : Char :=
  Char.ofNat 0xfffd

/-- Read any bytes, showing each ill-formed part as the replacement
character. -/
def decodeLossy (bytes : Bytes) : Text :=
  (decodeUnits bytes).map fun unit => unit.getD replacement

end Text

end GoldenCheck
