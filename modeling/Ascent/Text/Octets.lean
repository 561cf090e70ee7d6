/-!
# Octets

Text that arrives as octets: its base64 form, and the characters of a UTF-8
sequence.  An octet that belongs to no character becomes U+FFFD by itself.
-/

namespace Ascent.Text

/-- The six bits of a base64 character. -/
def sextet? (c : Char) : Option Nat :=
  if 'A' ≤ c ∧ c ≤ 'Z' then some (c.toNat - 'A'.toNat)
  else if 'a' ≤ c ∧ c ≤ 'z' then some (c.toNat - 'a'.toNat + 26)
  else if '0' ≤ c ∧ c ≤ '9' then some (c.toNat - '0'.toNat + 52)
  else if c == '+' then some 62
  else if c == '/' then some 63
  else none

/-- The octets of base64 characters in groups of four; the last group may be
padded. -/
def groups? : List Char → Option (List Nat)
  | [] => some []
  | [a, b, '=', '='] => do
      let bits := (← sextet? a) * 64 + (← sextet? b)
      return [bits / 16]
  | [a, b, c, '='] => do
      let bits := ((← sextet? a) * 64 + (← sextet? b)) * 64 + (← sextet? c)
      return [bits / 1024, bits / 4 % 256]
  | a :: b :: c :: d :: rest => do
      let bits := (((← sextet? a) * 64 + (← sextet? b)) * 64 + (← sextet? c)) * 64 + (← sextet? d)
      return bits / 65536 :: bits / 256 % 256 :: bits % 256 :: (← groups? rest)
  | _ => none

/-- The octets that a base64 text stands for; line ends do not count. -/
def base64? (text : String) : Option (List Nat) :=
  groups? (text.toList.filter fun c => c != '\n' && c != '\r')

/-- The UTF-8 octets of a text. -/
def octets (text : String) : List Nat :=
  text.toUTF8.data.toList.map UInt8.toNat

/-- Whether an octet continues a UTF-8 sequence. -/
def continues (octet : Nat) : Bool :=
  0x80 ≤ octet && octet < 0xc0

/-- The octets after the first one, and the code of a well-formed UTF-8 sequence
at the front of a list. -/
def sequence? : List Nat → Option (Nat × Nat)
  | a :: rest =>
      if a < 0x80 then some (0, a)
      else
        match rest with
        | b :: c :: d :: _ =>
            if continues b then two a b <|> (if continues c then three a b c <|>
              (if continues d then four a b c d else none) else none)
            else none
        | [b, c] =>
            if continues b then two a b <|> (if continues c then three a b c else none) else none
        | [b] => if continues b then two a b else none
        | [] => none
  | [] => none
where
  /-- A sequence of two octets. -/
  two (a b : Nat) : Option (Nat × Nat) :=
    if 0xc2 ≤ a && a < 0xe0 then some (1, a % 32 * 64 + b % 64) else none
  /-- A sequence of three octets. -/
  three (a b c : Nat) : Option (Nat × Nat) :=
    let code := (a % 16 * 64 + b % 64) * 64 + c % 64
    if 0xe0 ≤ a && a < 0xf0 && 0x800 ≤ code && !(0xd800 ≤ code && code < 0xe000) then
      some (2, code)
    else none
  /-- A sequence of four octets. -/
  four (a b c d : Nat) : Option (Nat × Nat) :=
    let code := ((a % 8 * 64 + b % 64) * 64 + c % 64) * 64 + d % 64
    if 0xf0 ≤ a && a < 0xf8 && 0x10000 ≤ code && code < 0x110000 then some (3, code) else none

/-- The characters of octets, skipping the first `skip` of them. -/
def charactersFrom : (skip : Nat) → List Nat → List Char
  | _, [] => []
  | skip + 1, _ :: rest => charactersFrom skip rest
  | 0, octet :: rest =>
      match sequence? (octet :: rest) with
      | some (count, code) => Char.ofNat code :: charactersFrom count rest
      | none => '\ufffd' :: charactersFrom 0 rest

/-- The text of octets. -/
def ofOctets (octets : List Nat) : String :=
  String.ofList (charactersFrom 0 octets)

end Ascent.Text
