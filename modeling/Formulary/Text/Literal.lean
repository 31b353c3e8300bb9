import Formulary.Text.Printable
import Formulary.Number.Numeral

namespace Formulary.Text

/-! # Text literals

A message shows a text between single quotes, or between double quotes if it
holds single quotes and no double ones.  Everything that cannot be shown as it
is stands as an escape.
-/

def literalPoint (quote : CodePoint) (point : CodePoint) : Text :=
  if point = quote then [.scalar '\\', point]
  else
    match point with
    | .scalar '\\' => "\\\\"
    | .scalar '\n' => "\\n"
    | .scalar '\r' => "\\r"
    | .scalar '\t' => "\\t"
    | _ =>
      if isPrintable point then [point]
      else if point.value < 0x100 then "\\x" ++ Numeral.hex 2 point.value
      else if point.value < 0x10000 then "\\u" ++ Numeral.hex 4 point.value
      else "\\U" ++ Numeral.hex 8 point.value

def literal (text : Text) : Text :=
  let quote : CodePoint :=
    if text.contains (.scalar '\'') && !text.contains (.scalar '"') then .scalar '"'
    else .scalar '\''
  quote :: text.flatMap (literalPoint quote) ++ [quote]

end Formulary.Text
