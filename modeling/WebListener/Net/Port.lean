import WebListener.Text.Decimal
-- Port numbers, and the one way the program reads a port out of an address: an optional plus,
-- then decimal digits, any number of leading zeros, at most 65535.
namespace WebListener.Net

abbrev Port := UInt16

def Port.ofChars? (cs : List Char) : Option Port :=
  let digits := match cs with
    | '+' :: rest => rest
    | _ => cs
  match Text.decimal? digits with
  | some n => if n < 65536 then some (UInt16.ofNat n) else none
  | none => none

def Port.text (port : Port) : String := .ofList (Text.decimalChars port.toNat)

end WebListener.Net
