/-!
# Rows of comma-separated values

The rows of a whole text, octet by octet as RFC 4180 has it.  A row ends with a
line feed, in front of which a carriage return may stand; the last one may do
without.  A field that starts with a quote goes up to the quote that closes it:
commas and line ends in it are kept as they are, and two quotes stand for one.
Elsewhere in a field there is no quote, and no carriage return that does not end
the row.
-/

namespace Ascent.Csv

/-- The octet between two fields. -/
def comma : Nat := 0x2c

/-- The octet around a field. -/
def quote : Nat := 0x22

/-- The octet that ends a row. -/
def feed : Nat := 0x0a

/-- The octet that may stand in front of the end of a row. -/
def carriage : Nat := 0x0d

/-- A field, as octets. -/
abbrev Field := List Nat

/-- Where in a field a reader is, with what it has read of it. -/
inductive Spot where
  /-- Outside quotes; at the very front of a field they may still open. -/
  | plain (field : Field)
  /-- Between quotes. -/
  | quoted (field : Field)
  /-- Behind a quote that closes the field unless another one follows. -/
  | closing (field : Field)
  /-- Behind the carriage return after the field. -/
  | returning (field : Field)
deriving DecidableEq, Repr

/-- What has been read: rows that have ended, the fields of the current row that
have ended, and something of the current field. -/
structure Reader where
  rows : List (List Field)
  fields : List Field
  spot : Spot
deriving DecidableEq, Repr

namespace Reader

/-- A reader of nothing. -/
def start : Reader :=
  ⟨[], [], .plain []⟩

/-- Read an octet that ends a field, if it does. -/
def separate? (reader : Reader) (field : Field) (octet : Nat) : Option Reader :=
  if octet = comma then some ⟨reader.rows, reader.fields ++ [field], .plain []⟩
  else if octet = feed then some ⟨reader.rows ++ [reader.fields ++ [field]], [], .plain []⟩
  else if octet = carriage then some { reader with spot := .returning field }
  else none

/-- Read an octet. -/
def step (reader : Reader) (octet : Nat) : Option Reader :=
  match reader.spot with
  | .plain field =>
      if octet = quote then
        if field = [] then some { reader with spot := .quoted [] } else none
      else reader.separate? field octet <|> some { reader with spot := .plain (field ++ [octet]) }
  | .quoted field =>
      if octet = quote then some { reader with spot := .closing field }
      else some { reader with spot := .quoted (field ++ [octet]) }
  | .closing field =>
      if octet = quote then some { reader with spot := .quoted (field ++ [quote]) }
      else reader.separate? field octet
  | .returning field => if octet = feed then reader.separate? field octet else none

/-- The rows at the end of a text.  Behind the end of a row there is no further
one. -/
def finish (reader : Reader) : Option (List (List Field)) :=
  if reader.spot = .plain [] ∧ reader.fields = [] then some reader.rows
  else
    match reader.spot with
    | .plain field | .closing field => some (reader.rows ++ [reader.fields ++ [field]])
    | .quoted _ | .returning _ => none

end Reader

/-- The rows of a text, if it is a text of rows. -/
def rows? (octets : List Nat) : Option (List (List Field)) :=
  (octets.foldlM Reader.step Reader.start).bind Reader.finish

end Ascent.Csv
