import Predictive.Pattern.Reader

/-! What a written pattern means under the flags. Flags that are set inside a group last
until its end, also over the branches that follow. -/

namespace Predictive.Pattern

structure Modes where
  ignoreCase : Bool
  multiLine : Bool
  dotAll : Bool
  carriage : Bool
  unicode : Bool
  deriving DecidableEq, Repr

namespace Modes

def start : Modes := ⟨false, false, false, false, true⟩

def apply (modes : Modes) (items : List FlagItem) : Modes :=
  let value := fun flag => setting? flag true items
  { ignoreCase := (value .ignoreCase).getD modes.ignoreCase
    multiLine := (value .multiLine).getD modes.multiLine
    dotAll := (value .dotAll).getD modes.dotAll
    carriage := (value .carriage).getD modes.carriage
    unicode := (value .unicode).getD modes.unicode }

def fold (modes : Modes) (set : CharSet) : CharSet :=
  if !modes.ignoreCase then set else if modes.unicode then .folded set else .foldedAscii set

/-- Without Unicode a negated class holds bytes that are no characters. -/
def negate (modes : Modes) (span : Span) (negated : Bool) (set : CharSet) :
    Except Fault CharSet :=
  if !negated then .ok set
  else if modes.unicode then .ok (.complement set)
  else .error (.at .invalidUtf8 span)

end Modes

def AsciiClass.ranges : AsciiClass → List (Char × Char)
  | alnum => [('0', '9'), ('A', 'Z'), ('a', 'z')]
  | alpha => [('A', 'Z'), ('a', 'z')]
  | ascii => [('\x00', '\x7F')]
  | blank => [('\t', '\t'), (' ', ' ')]
  | cntrl => [('\x00', '\x1F'), ('\x7F', '\x7F')]
  | digit => [('0', '9')]
  | graph => [('!', '~')]
  | lower => [('a', 'z')]
  | print => [(' ', '~')]
  | punct => [('!', '/'), (':', '@'), ('[', '\x60'), ('\x7B', '~')]
  | space => [('\t', '\r'), (' ', ' ')]
  | upper => [('A', 'Z')]
  | word => [('0', '9'), ('A', 'Z'), ('_', '_'), ('a', 'z')]
  | xdigit => [('0', '9'), ('A', 'F'), ('a', 'f')]

def AsciiClass.set (kind : AsciiClass) : CharSet := .ofRanges kind.ranges

def Shorthand.ascii : Shorthand → AsciiClass
  | digit => .digit
  | space => .space
  | word => .word

def Shorthand.property : Shorthand → Property
  | digit => .category .decimalNumber
  | space => .blank
  | word => .word

/-- Shorthands have the same members in both cases and are never folded. -/
def shorthandSet (modes : Modes) (span : Span) (negated : Bool) (kind : Shorthand) :
    Except Fault CharSet :=
  modes.negate span negated (if modes.unicode then .property kind.property else kind.ascii.set)

/-- Names are compared without blanks, hyphens, low lines, the case of letters and `is` at
the beginning. -/
def looseName (name : List Char) : String :=
  let name := match name with
    | 'i' :: 's' :: rest | 'I' :: 's' :: rest | 'i' :: 'S' :: rest | 'I' :: 'S' :: rest => rest
    | name => name
  let kept := name.filter fun c => c != ' ' && c != '_' && c != '-' && c.toNat < 128
  String.ofList (kept.map Char.toLower)

def letters : List Text.Category :=
  [.uppercaseLetter, .lowercaseLetter, .titlecaseLetter, .modifierLetter, .otherLetter]

def marks : List Text.Category := [.nonspacingMark, .spacingMark, .enclosingMark]

def numbers : List Text.Category := [.decimalNumber, .letterNumber, .otherNumber]

def punctuations : List Text.Category :=
  [.connectorPunctuation, .dashPunctuation, .openPunctuation, .closePunctuation,
   .initialPunctuation, .finalPunctuation, .otherPunctuation]

def symbolCategories : List Text.Category :=
  [.mathSymbol, .currencySymbol, .modifierSymbol, .otherSymbol]

def separators : List Text.Category := [.spaceSeparator, .lineSeparator, .paragraphSeparator]

def others : List Text.Category := [.control, .format, .privateUse, .unassigned]

def categoriesNamed? : String → Option (List Text.Category)
  | "lu" | "uppercaseletter" => some [.uppercaseLetter]
  | "ll" | "lowercaseletter" => some [.lowercaseLetter]
  | "lt" | "titlecaseletter" => some [.titlecaseLetter]
  | "lc" | "casedletter" => some [.uppercaseLetter, .lowercaseLetter, .titlecaseLetter]
  | "lm" | "modifierletter" => some [.modifierLetter]
  | "lo" | "otherletter" => some [.otherLetter]
  | "l" | "letter" => some letters
  | "mn" | "nonspacingmark" => some [.nonspacingMark]
  | "mc" | "spacingmark" => some [.spacingMark]
  | "me" | "enclosingmark" => some [.enclosingMark]
  | "m" | "mark" | "combiningmark" => some marks
  | "nd" | "decimalnumber" | "digit" => some [.decimalNumber]
  | "nl" | "letternumber" => some [.letterNumber]
  | "no" | "othernumber" => some [.otherNumber]
  | "n" | "number" => some numbers
  | "pc" | "connectorpunctuation" => some [.connectorPunctuation]
  | "pd" | "dashpunctuation" => some [.dashPunctuation]
  | "ps" | "openpunctuation" => some [.openPunctuation]
  | "pe" | "closepunctuation" => some [.closePunctuation]
  | "pi" | "initialpunctuation" => some [.initialPunctuation]
  | "pf" | "finalpunctuation" => some [.finalPunctuation]
  | "po" | "otherpunctuation" => some [.otherPunctuation]
  | "p" | "punctuation" | "punct" => some punctuations
  | "sm" | "mathsymbol" => some [.mathSymbol]
  | "sc" | "currencysymbol" => some [.currencySymbol]
  | "sk" | "modifiersymbol" => some [.modifierSymbol]
  | "so" | "othersymbol" => some [.otherSymbol]
  | "s" | "symbol" => some symbolCategories
  | "zs" | "spaceseparator" => some [.spaceSeparator]
  | "zl" | "lineseparator" => some [.lineSeparator]
  | "zp" | "paragraphseparator" => some [.paragraphSeparator]
  | "z" | "separator" => some separators
  | "cc" | "control" | "cntrl" => some [.control]
  | "cf" | "format" => some [.format]
  | "cn" | "unassigned" => some [.unassigned]
  | "co" | "privateuse" => some [.privateUse]
  | "c" | "other" => some others
  | _ => none

/-- The general category by a loose name. Surrogates are no characters. -/
def categorySet? (name : String) : Except Problem (Option CharSet) :=
  match name with
  | "any" => .ok (some (.property .any))
  | "ascii" => .ok (some AsciiClass.ascii.set)
  | "assigned" => .ok (some (.complement (.property (.category .unassigned))))
  | "cs" | "surrogate" => .error .propertyValueUnknown
  | name => .ok ((categoriesNamed? name).map fun found => .ofProperties (found.map .category))

def scriptSet? (name : String) : Option CharSet :=
  (Text.scriptNamed? name).map fun short => .property (.script short)

def namedSet (name : String) : Except Problem CharSet := do
  match name with
  | "alphabetic" | "alpha" => return .property .alphabetic
  | "lowercase" | "lower" => return .property .lowercase
  | "uppercase" | "upper" => return .property .uppercase
  | "whitespace" | "wspace" | "space" => return .property .blank
  | "asciihexdigit" | "ahex" => return AsciiClass.xdigit.set
  | name =>
    match (← categorySet? name) <|> scriptSet? name with
    | some set => return set
    | none => throw .propertyUnknown

def Query.set : Query → Except Problem CharSet
  | named name => namedSet (looseName name)
  | valued _ name value => do
    let value := looseName value
    let found ← match looseName name with
      | "generalcategory" | "gc" => categorySet? value
      | "script" | "sc" | "scriptextensions" | "scx" => .ok (scriptSet? value)
      | _ => .error .propertyUnknown
    match found with
    | some set => return set
    | none => throw .propertyValueUnknown

def Query.differs : Query → Bool
  | named _ => false
  | valued differs .. => differs

def propertySet (modes : Modes) (span : Span) (negated : Bool) (query : Query) :
    Except Fault CharSet :=
  if !modes.unicode then .error (.at .noUnicode span)
  else
    match query.set with
    | .error problem => .error (.at problem span)
    | .ok set => modes.negate span (negated != query.differs) (modes.fold set)

/-- Without Unicode the number of a byte above ASCII is no character. -/
def literalChar (modes : Modes) (literal : Literal) : Except Fault Char :=
  if !modes.unicode && literal.byte && 127 < literal.char.toNat then
    .error (.at .invalidUtf8 literal.span)
  else .ok literal.char

def setChar (modes : Modes) (literal : Literal) : Except Fault Char := do
  let c ← literalChar modes literal
  if !modes.unicode && 127 < c.toNat then .error (.at .noUnicode literal.span)
  return c

def SetOperator.combine : SetOperator → CharSet → CharSet → CharSet
  | intersection, left, right => .intersection left right
  | difference, left, right => .difference left right
  | symmetricDifference, left, right => .symmetricDifference left right

namespace SetTree

def meaning (modes : Modes) : SetTree → Except Fault CharSet
  | empty _ => .ok .nothing
  | literal l => (setChar modes l).map CharSet.one
  | range _ first last => do return .range (← setChar modes first) (← setChar modes last)
  | ascii span negated kind => modes.negate span negated (modes.fold kind.set)
  | shorthand span negated kind => shorthandSet modes span negated kind
  | property span negated query => propertySet modes span negated query
  | union _ items => meaningAll modes items
  | operation _ operator left right => do
    let left ← meaning modes left
    let right ← meaning modes right
    return operator.combine (modes.fold left) (modes.fold right)
  | bracket span negated inner => do
    modes.negate span negated (modes.fold (← meaning modes inner))
where
  meaningAll (modes : Modes) : List SetTree → Except Fault CharSet
    | [] => .ok .nothing
    | item :: later => do
      let set ← meaning modes item
      return .union set (← meaningAll modes later)

end SetTree

def dotSet (modes : Modes) (span : Span) : Except Fault CharSet :=
  if !modes.unicode then .error (.at .invalidUtf8 span)
  else if modes.dotAll then .ok (.property .any)
  else if modes.carriage then .ok (.complement (.union (.one '\n') (.one '\r')))
  else .ok (.complement (.one '\n'))

def Anchor.assertion (modes : Modes) : Anchor → Assertion
  | lineStart => if modes.multiLine then .lineStart modes.carriage else .textStart
  | lineFinish => if modes.multiLine then .lineFinish modes.carriage else .textFinish
  | textStart => .textStart
  | textFinish => .textFinish
  | word boundary => .word boundary (!modes.unicode)

namespace Tree

/-- The meaning of a tree, and the modes after it. -/
def meaning (modes : Modes) : Tree → Except Fault (Pattern × Modes)
  | empty _ => .ok (.empty, modes)
  | flags _ items => .ok (.empty, modes.apply items)
  | literal l => do return (.oneOf (modes.fold (.one (← literalChar modes l))), modes)
  | dot span => do return (.oneOf (← dotSet modes span), modes)
  | anchor _ place => .ok (.check (place.assertion modes), modes)
  | shorthand span negated kind => do
    return (.oneOf (← shorthandSet modes span negated kind), modes)
  | property span negated query => do
    return (.oneOf (← propertySet modes span negated query), modes)
  | bracket span negated inner => do
    return (.oneOf (← (SetTree.bracket span negated inner).meaning modes), modes)
  | repetition _ least most inner => do
    let (pattern, modes) ← meaning modes inner
    return (.repeated pattern least most, modes)
  | group _ items inner => do
    let (pattern, _) ← meaning (modes.apply items) inner
    return (pattern, modes)
  | chain _ parts => meaningChain modes parts
  | alternatives _ branches => meaningBranches modes branches
where
  meaningChain (modes : Modes) : List Tree → Except Fault (Pattern × Modes)
    | [] => .ok (.empty, modes)
    | part :: later => do
      let (first, modes) ← meaning modes part
      let (second, modes) ← meaningChain modes later
      return (.chain first second, modes)
  meaningBranches (modes : Modes) : List Tree → Except Fault (Pattern × Modes)
    | [] => .ok (.oneOf .nothing, modes)
    | branch :: later => do
      let (first, modes) ← meaning modes branch
      let (second, modes) ← meaningBranches modes later
      return (.either first second, modes)

end Tree

end Predictive.Pattern
