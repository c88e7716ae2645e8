import ShardCheck.Yaml.Mark

/-!
# Malformed documents

What makes a text no YAML document, and what was being read when that showed. Every fault has one
message, built from the problem, its place, and the construct around it.
-/

namespace ShardCheck.Yaml

/-- What is wrong with the text. -/
inductive Problem where
  | controlCharacter
  | noTokenStart
  | entryNotAllowed
  | keyNotAllowed
  | valueNotAllowed
  | missingKeyColon
  | missingDirectiveName
  | badDirectiveName
  | unknownDirective
  | missingLineEnd
  | missingVersionDot
  | longVersionNumber
  | missingVersionNumber
  | missingBlank
  | missingBlankOrLineEnd
  | missingAnchorName
  | missingTagClose
  | missingTagMark
  | missingTagUri
  | missingUriOctet
  | badLeadingOctet
  | badTrailingOctet
  | zeroIndentation
  | tabInBlockIndentation
  | documentMarkInQuotes
  | endInQuotes
  | unknownEscape
  | missingHexDigit
  | badEscapeCode
  | colonInFlowPlain
  | tabInPlainIndentation
  | missingDocumentStart
  | duplicateVersion
  | unsupportedVersion
  | duplicateTagHandle
  | undefinedTagHandle
  | missingContent
  | missingEntryDash
  | missingKey
  | missingSequenceComma
  | missingMappingComma
  deriving Repr, DecidableEq

def Problem.text : Problem → String
  | .controlCharacter => "control characters are not allowed"
  | .noTokenStart => "found character that cannot start any token"
  | .entryNotAllowed => "block sequence entries are not allowed in this context"
  | .keyNotAllowed => "mapping keys are not allowed in this context"
  | .valueNotAllowed => "mapping values are not allowed in this context"
  | .missingKeyColon => "could not find expected ':'"
  | .missingDirectiveName => "could not find expected directive name"
  | .badDirectiveName => "found unexpected non-alphabetical character"
  | .unknownDirective => "found unknown directive name"
  | .missingLineEnd => "did not find expected comment or line break"
  | .missingVersionDot => "did not find expected digit or '.' character"
  | .longVersionNumber => "found extremely long version number"
  | .missingVersionNumber => "did not find expected version number"
  | .missingBlank => "did not find expected whitespace"
  | .missingBlankOrLineEnd => "did not find expected whitespace or line break"
  | .missingAnchorName => "did not find expected alphabetic or numeric character"
  | .missingTagClose => "did not find the expected '>'"
  | .missingTagMark => "did not find expected '!'"
  | .missingTagUri => "did not find expected tag URI"
  | .missingUriOctet => "did not find URI escaped octet"
  | .badLeadingOctet => "found an incorrect leading UTF-8 octet"
  | .badTrailingOctet => "found an incorrect trailing UTF-8 octet"
  | .zeroIndentation => "found an indentation indicator equal to 0"
  | .tabInBlockIndentation =>
    "found a tab character where an indentation space is expected"
  | .documentMarkInQuotes => "found unexpected document indicator"
  | .endInQuotes => "found unexpected end of stream"
  | .unknownEscape => "found unknown escape character"
  | .missingHexDigit => "did not find expected hexadecimal number"
  | .badEscapeCode => "found invalid Unicode character escape code"
  | .colonInFlowPlain => "found unexpected ':'"
  | .tabInPlainIndentation => "found a tab character that violates indentation"
  | .missingDocumentStart => "did not find expected <document start>"
  | .duplicateVersion => "found duplicate %YAML directive"
  | .unsupportedVersion => "found incompatible YAML document"
  | .duplicateTagHandle => "found duplicate %TAG directive"
  | .undefinedTagHandle => "found undefined tag handle"
  | .missingContent => "did not find expected node content"
  | .missingEntryDash => "did not find expected '-' indicator"
  | .missingKey => "did not find expected key"
  | .missingSequenceComma => "did not find expected ',' or ']'"
  | .missingMappingComma => "did not find expected ',' or '\x7d'"

/-- The construct that was being read. -/
inductive Construct where
  | nextToken
  | simpleKey
  | directive
  | versionDirective
  | tagDirectiveLine
  | tagDirectiveHandle
  | tagDirectiveUnfinishedHandle
  | tagDirectiveUri
  | tag
  | tagUri
  | anchorName
  | aliasName
  | blockScalar
  | quotedScalar
  | quotedEscape
  | plainScalar
  | node
  | blockNode
  | flowNode
  | blockSequence
  | blockMapping
  | flowSequence
  | flowMapping
  deriving Repr, DecidableEq

def Construct.text : Construct → String
  | .nextToken => "while scanning for the next token"
  | .simpleKey => "while scanning a simple key"
  | .directive => "while scanning a directive"
  | .versionDirective => "while scanning a %YAML directive"
  | .tagDirectiveLine => "while scanning a %TAG directive"
  | .tagDirectiveHandle => "while scanning a tag directive"
  | .tagDirectiveUnfinishedHandle => "while parsing a tag directive"
  | .tagDirectiveUri => "while parsing a %TAG directive"
  | .tag => "while scanning a tag"
  | .tagUri => "while parsing a tag"
  | .anchorName => "while scanning an anchor"
  | .aliasName => "while scanning an alias"
  | .blockScalar => "while scanning a block scalar"
  | .quotedScalar => "while scanning a quoted scalar"
  | .quotedEscape => "while parsing a quoted scalar"
  | .plainScalar => "while scanning a plain scalar"
  | .node => "while parsing a node"
  | .blockNode => "while parsing a block node"
  | .flowNode => "while parsing a flow node"
  | .blockSequence => "while parsing a block collection"
  | .blockMapping => "while parsing a block mapping"
  | .flowSequence => "while parsing a flow sequence"
  | .flowMapping => "while parsing a flow mapping"

/-- A problem, where it shows, and the construct it shows in with the start of that construct. A
forbidden character is reported by its byte offset instead of a mark. -/
structure Fault where
  problem : Problem
  mark : Mark
  within : Option (Construct × Mark) := none
  offset : Nat := 0
  deriving Repr, DecidableEq

namespace Fault

def placeText (f : Fault) : String :=
  if !f.mark.isOrigin then " at " ++ f.mark.text
  else if f.offset != 0 then " at position " ++ toString f.offset
  else ""

/-- The construct around the problem, as the message gives it. Its start is left out when that is
the place of the problem itself. -/
def withinText (f : Fault) : String :=
  match f.within with
  | none => ""
  | some (c, m) =>
    ", " ++ c.text ++ if m.isOrigin || m.samePlace f.mark then "" else " at " ++ m.text

def message (f : Fault) : String :=
  f.problem.text ++ f.placeText ++ f.withinText

end Fault

end ShardCheck.Yaml
