/-!
What makes a text malformed as YAML: the problem met, and what was being read when it was met.
-/

namespace SizeSweep.Yaml

/-- What is wrong at a place of a text. -/
inductive Problem where
  /-- A character that may not stand in a text, after so many bytes. -/
  | controlCharacter (offset : Nat)
  | noTokenStart
  | keyWithoutColon
  | entryOutOfPlace
  | keyOutOfPlace
  | valueOutOfPlace
  | unknownDirective
  | noDirectiveName
  | directiveNameEnd
  | lineContinues
  | noVersionNumber
  | noVersionPoint
  | longVersionNumber
  | noHandleStart
  | noHandleEnd
  | noSpace
  | noSpaceOrLineBreak
  | noUri
  | badEscapedOctet
  | badLeadingOctet
  | badTrailingOctet
  | noVerbatimEnd
  | noAnchorName
  | zeroIndentation
  | tabAsIndentation
  | documentMark
  | unclosedQuote
  | unknownEscape
  | noHexDigit
  | badCodePoint
  | colonOutOfPlace
  | tabBelowIndentation
  | noDocumentStart
  | repeatedVersion
  | badVersion
  | repeatedHandle
  | undefinedHandle
  | noContent
  | noEntry
  | noKey
  | noSequenceEnd
  | noMappingEnd
  | unknownAnchor
  | severalDocuments
deriving DecidableEq

def Problem.message : Problem → String
  | controlCharacter offset =>
    "control characters are not allowed" ++ if offset = 0 then "" else s!" at position {offset}"
  | noTokenStart => "found character that cannot start any token"
  | keyWithoutColon => "could not find expected ':'"
  | entryOutOfPlace => "block sequence entries are not allowed in this context"
  | keyOutOfPlace => "mapping keys are not allowed in this context"
  | valueOutOfPlace => "mapping values are not allowed in this context"
  | unknownDirective => "found unknown directive name"
  | noDirectiveName => "could not find expected directive name"
  | directiveNameEnd => "found unexpected non-alphabetical character"
  | lineContinues => "did not find expected comment or line break"
  | noVersionNumber => "did not find expected version number"
  | noVersionPoint => "did not find expected digit or '.' character"
  | longVersionNumber => "found extremely long version number"
  | noHandleStart => "did not find expected '!'"
  | noHandleEnd => "did not find expected '!'"
  | noSpace => "did not find expected whitespace"
  | noSpaceOrLineBreak => "did not find expected whitespace or line break"
  | noUri => "did not find expected tag URI"
  | badEscapedOctet => "did not find URI escaped octet"
  | badLeadingOctet => "found an incorrect leading UTF-8 octet"
  | badTrailingOctet => "found an incorrect trailing UTF-8 octet"
  | noVerbatimEnd => "did not find the expected '>'"
  | noAnchorName => "did not find expected alphabetic or numeric character"
  | zeroIndentation => "found an indentation indicator equal to 0"
  | tabAsIndentation => "found a tab character where an indentation space is expected"
  | documentMark => "found unexpected document indicator"
  | unclosedQuote => "found unexpected end of stream"
  | unknownEscape => "found unknown escape character"
  | noHexDigit => "did not find expected hexadecimal number"
  | badCodePoint => "found invalid Unicode character escape code"
  | colonOutOfPlace => "found unexpected ':'"
  | tabBelowIndentation => "found a tab character that violates indentation"
  | noDocumentStart => "did not find expected <document start>"
  | repeatedVersion => "found duplicate %YAML directive"
  | badVersion => "found incompatible YAML document"
  | repeatedHandle => "found duplicate %TAG directive"
  | undefinedHandle => "found undefined tag handle"
  | noContent => "did not find expected node content"
  | noEntry => "did not find expected '-' indicator"
  | noKey => "did not find expected key"
  | noSequenceEnd => "did not find expected ',' or ']'"
  | noMappingEnd => "did not find expected ',' or '\x7d'"
  | unknownAnchor => "unknown anchor"
  | severalDocuments =>
    "deserializing from YAML containing more than one document is not supported"

/-- What was being read when a problem was met. -/
inductive Activity where
  | nextToken
  | simpleKey
  | directive
  | versionDirective
  | tagDirective
  | tagDirectiveHandle
  | tagDirectiveHandleEnd
  | tagDirectiveValue
  | anchor
  | reference
  | tag
  | tagValue
  | blockScalar
  | quotedScalar
  | quotedScalarEscape
  | plainScalar
  | node
  | blockNode
  | flowNode
  | blockSequence
  | blockMapping
  | flowSequence
  | flowMapping
deriving DecidableEq

def Activity.message : Activity → String
  | nextToken => "while scanning for the next token"
  | simpleKey => "while scanning a simple key"
  | directive => "while scanning a directive"
  | versionDirective => "while scanning a %YAML directive"
  | tagDirective => "while scanning a %TAG directive"
  | tagDirectiveHandle => "while scanning a tag directive"
  | tagDirectiveHandleEnd => "while parsing a tag directive"
  | tagDirectiveValue => "while parsing a %TAG directive"
  | anchor => "while scanning an anchor"
  | reference => "while scanning an alias"
  | tag => "while scanning a tag"
  | tagValue => "while parsing a tag"
  | blockScalar => "while scanning a block scalar"
  | quotedScalar => "while scanning a quoted scalar"
  | quotedScalarEscape => "while parsing a quoted scalar"
  | plainScalar => "while scanning a plain scalar"
  | node => "while parsing a node"
  | blockNode => "while parsing a block node"
  | flowNode => "while parsing a flow node"
  | blockSequence => "while parsing a block collection"
  | blockMapping => "while parsing a block mapping"
  | flowSequence => "while parsing a flow sequence"
  | flowMapping => "while parsing a flow mapping"

/-- Why a text is no YAML document. -/
structure Fault where
  problem : Problem
  activity : Option Activity := none
deriving DecidableEq

def Fault.message (fault : Fault) : String :=
  match fault.activity with
  | none => fault.problem.message
  | some activity => fault.problem.message ++ ", " ++ activity.message

end SizeSweep.Yaml
