/-! Text made safe for markup. -/

namespace TagTemplate.Markup

def escapeChar (c : Char) : List Char :=
  if c = '&' then "&amp;".toList
  else if c = '<' then "&lt;".toList
  else if c = '>' then "&gt;".toList
  else if c = '"' then "&quot;".toList
  else if c = '\'' then "&#x27;".toList
  else if c = '\x60' then "&#x60;".toList
  else if c = '=' then "&#x3D;".toList
  else [c]

def escape (text : List Char) : List Char := text.flatMap escapeChar

end TagTemplate.Markup
