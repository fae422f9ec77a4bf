/-! Text as LaTeX shows it. -/

namespace Predictive.Tex

def escapeChar : Char → String
  | '&' => "\\&"
  | '%' => "\\%"
  | '$' => "\\$"
  | '#' => "\\#"
  | '_' => "\\_"
  | '\x7b' => "\\\x7b"
  | '\x7d' => "\\\x7d"
  | '[' => "\x7b[\x7d"
  | ']' => "\x7b]\x7d"
  | '~' => "\\textasciitilde\x7b\x7d"
  | '^' => "\\textasciicircum\x7b\x7d"
  | '<' => "\\textless\x7b\x7d"
  | '>' => "\\textgreater\x7b\x7d"
  | '!' => "!\x7b\x7d"
  | '\\' => "\\textbackslash\x7b\x7d"
  | c => String.singleton c

/-- A hyphen is kept apart from a hyphen behind it, or the two would become a dash. -/
def escapeChars : List Char → String
  | [] => ""
  | '-' :: '-' :: rest => "-\x7b\x7d" ++ escapeChars ('-' :: rest)
  | c :: rest => escapeChar c ++ escapeChars rest

def escape (text : String) : String := escapeChars text.toList

/-- Replaces the sign for the empty word by a command, however the context writes it. -/
def withEpsilon (command text : String) : String :=
  String.join (text.toList.map fun c => if c == 'ε' then command else String.singleton c)

end Predictive.Tex
