/-
Why a text is no YAML document.
-/

namespace TripCards
namespace Yaml

inductive Fault where
  | unwritable (c : Char)
  | strayCharacter (c : Char)
  | tabInIndentation
  | strayColon
  | unclosedQuote
  | markInQuote
  | badEscape
  | badBlockHeader
  | badAnchor
  | badTag
  | badDirective
  | keyWithoutValue
  | misplacedKey
  | misplacedValue
  | misplacedItem
  | missingNode
  | missingItem
  | missingKey
  | missingComma
  | missingStart
  | unknownAlias (name : String)
  | unknownHandle (handle : String)
  | unknownVersion
  | repeatedDirective
  | severalDocuments
  | tooDeep
deriving DecidableEq, Repr

def Fault.message : Fault → String
  | unwritable _ => "a control character has to be escaped"
  | strayCharacter c => "no value can start with '" ++ c.toString ++ "'"
  | tabInIndentation => "a line cannot be indented by a tab"
  | strayColon => "a colon stands where a value should be"
  | unclosedQuote => "a quoted text is not closed"
  | markInQuote => "a document cannot start or end in a quoted text"
  | badEscape => "an escape in a quoted text is not known"
  | badBlockHeader => "the head of a text block cannot be read"
  | badAnchor => "the name of an anchor cannot be read"
  | badTag => "a tag cannot be read"
  | badDirective => "a directive cannot be read"
  | keyWithoutValue => "a key has no value"
  | misplacedKey => "a key cannot stand here"
  | misplacedValue => "a value cannot stand here"
  | misplacedItem => "an item cannot stand here"
  | missingNode => "a value is missing"
  | missingItem => "an item is missing"
  | missingKey => "a key is missing"
  | missingComma => "a comma or a closing bracket is missing"
  | missingStart => "the start of a document is missing"
  | unknownAlias name => "no anchor has the name '" ++ name ++ "'"
  | unknownHandle handle => "no tag has the handle '" ++ handle ++ "'"
  | unknownVersion => "the version is not known"
  | repeatedDirective => "a directive is repeated"
  | severalDocuments => "more follows the first document"
  | tooDeep => "the document is nested too deeply"

end Yaml
end TripCards
