/-! Compact JSON. Fields keep their order and only the characters that need it are
escaped. -/

namespace Predictive

inductive Json where
  | null
  | boolean (value : Bool)
  | number (value : Nat)
  | string (text : String)
  | array (items : List Json)
  | object (fields : List (String × Json))

namespace Json

def hexDigit (n : Nat) : Char :=
  if n < 10 then Char.ofNat (48 + n) else Char.ofNat (87 + n)

def escapeChar (c : Char) : String :=
  if c == '"' then "\\\""
  else if c == '\\' then "\\\\"
  else if c == '\n' then "\\n"
  else if c == '\r' then "\\r"
  else if c == '\t' then "\\t"
  else if c == '\x08' then "\\b"
  else if c == '\x0c' then "\\f"
  else if c.toNat < 32 then
    "\\u00" ++ String.ofList [hexDigit (c.toNat / 16), hexDigit (c.toNat % 16)]
  else String.singleton c

def quoted (text : String) : String :=
  "\"" ++ String.join (text.toList.map escapeChar) ++ "\""

mutual

def render : Json → String
  | null => "null"
  | boolean value => if value then "true" else "false"
  | number value => toString value
  | string text => quoted text
  | array items => "[" ++ ",".intercalate (renderItems items) ++ "]"
  | object fields => "\x7b" ++ ",".intercalate (renderFields fields) ++ "\x7d"

def renderItems : List Json → List String
  | [] => []
  | item :: later => item.render :: renderItems later

def renderFields : List (String × Json) → List String
  | [] => []
  | (name, value) :: later => (quoted name ++ ":" ++ value.render) :: renderFields later

end

def strings (texts : List String) : Json := array (texts.map string)

end Json
end Predictive
