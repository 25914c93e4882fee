import IdentSearch.Text.Quoted
import IdentSearch.Yaml.Cursor
import IdentSearch.Yaml.Token

/-!
What can be wrong with a YAML text: a fault at a place, and what was being read there.
-/

namespace IdentSearch.Yaml

inductive Context
  | nextToken
  | key
  | directive
  | reference
  | anchor
  | tag
  | tagParts
  | blockText
  | escape
  | quoted
  | tagged
  | blockNode
  | flowNode
  | blockList
  | blockMap
  | flowList
  | flowMap
  | entries
  | namesake (name : Text)
  | document
deriving DecidableEq, Repr

def Context.message : Context → String
  | nextToken => "while scanning for the next token"
  | key => "while scanning a simple key"
  | directive => "while scanning a directive"
  | reference => "while scanning an alias"
  | anchor => "while scanning an anchor"
  | tag => "while scanning a tag"
  | tagParts => "while parsing a tag"
  | blockText => "while scanning a block scalar"
  | escape => "while scanning a double-quoted scalar"
  | quoted => "while scanning a quoted scalar"
  | tagged => "while parsing a node"
  | blockNode => "while parsing a block node"
  | flowNode => "while parsing a flow node"
  | blockList => "while parsing a block collection"
  | blockMap => "while parsing a block mapping"
  | flowList => "while parsing a flow sequence"
  | flowMap => "while parsing a flow mapping"
  | entries => "while constructing a mapping"
  | namesake name => "found duplicate anchor " ++ String.ofList name.quoted ++ "; first occurrence"
  | document => "expected a single document in the stream"

inductive Wanted
  | nameCharacter
  | digit
  | digitOr (c : Char)
  | hexadecimal (n : Nat)
  | lineEnd
  | indicators
  | character (c : Char)
  | tagName

def Wanted.message : Wanted → String
  | nameCharacter => "alphabetic or numeric character"
  | digit => "a digit"
  | digitOr c => "a digit or " ++ String.ofList (Text.quoted [c])
  | hexadecimal n =>
    "escape sequence of " ++ String.ofList (Nat.toDigits 10 n) ++ " hexadecimal numbers"
  | lineEnd => "a comment or a line break"
  | indicators => "chomping or indentation indicators"
  | character c => String.ofList (Text.quoted [c])
  | tagName => "URI"

inductive Fault
  | startsNoToken (c : Char)
  | misplacedItem
  | misplacedKey
  | misplacedValue
  | missingColon
  | textEnds
  | documentEnds
  | expected (what : Wanted) (found : Option Char)
  | unknownEscape (found : Option Char)
  | noIndentation
  | expectedBlockEnd (found : Token)
  | expectedComma (closing : Char) (found : Token)
  | expectedContent (found : Token)
  | expectedDocument (found : Token)
  | secondVersion
  | otherVersion
  | unknownHandle (handle : Text)
  | unknownReference (name : Text)
  | secondAnchor
  | secondDocument
  | unknownTag (tag : Text)
  | compositeKey
  -- What should be merged into a map is neither a map nor a list.
  | unmergeable (form : String)
  -- What should be merged into a map is a list that does not only hold maps.
  | unmergeableItem (form : String)

def shownCharacter (c : Option Char) : String := String.ofList (Text.quoted [c.getD '\x00'])

def shownToken (t : Token) : String := String.ofList (Text.quoted t.name.toList)

def Fault.message : Fault → String
  | startsNoToken c => "found character " ++ shownCharacter (some c) ++ " that cannot start any token"
  | misplacedItem => "sequence entries are not allowed here"
  | misplacedKey => "mapping keys are not allowed here"
  | misplacedValue => "mapping values are not allowed here"
  | missingColon => "could not find expected ':'"
  | textEnds => "found unexpected end of stream"
  | documentEnds => "found unexpected document separator"
  | expected what found => "expected " ++ what.message ++ ", but found " ++ shownCharacter found
  | unknownEscape found => "found unknown escape character " ++ shownCharacter found
  | noIndentation => "expected indentation indicator in the range 1-9, but found 0"
  | expectedBlockEnd found => "expected <block end>, but found " ++ shownToken found
  | expectedComma closing found =>
    "expected ',' or " ++ shownCharacter (some closing) ++ ", but got " ++ shownToken found
  | expectedContent found => "expected the node content, but found " ++ shownToken found
  | expectedDocument found => "expected '<document start>', but found " ++ shownToken found
  | secondVersion => "found duplicate YAML directive"
  | otherVersion => "found incompatible YAML document (version 1.* is required)"
  | unknownHandle handle => "found undefined tag handle " ++ String.ofList handle.quoted
  | unknownReference name => "found undefined alias " ++ String.ofList name.quoted
  | secondAnchor => "second occurrence"
  | secondDocument => "but found another document"
  | unknownTag tag => "could not determine a constructor for the tag " ++ String.ofList tag.quoted
  | compositeKey => "found unhashable key"
  | unmergeable form => "expected a mapping or list of mappings for merging, but found " ++ form
  | unmergeableItem form => "expected a mapping for merging, but found " ++ form

-- Beside the faults at places, which may have begun elsewhere, there are scalars that look like a value but are
-- none. The reason is given then, and no place.
inductive Malformed
  | character (c : Char) (index : Nat)
  | fault (context : Option (Context × Option Place)) (what : Fault) (place : Place)
  | scalar (reason : String)

namespace Malformed

def placeLine (file : String) (p : Place) : String :=
  "  in \"" ++ file ++ "\", line " ++ toString (p.line + 1) ++ ", column " ++ toString (p.column + 1)

def messageLines (file : String) : Malformed → List String
  | character c index => [
    "unacceptable character #x" ++ String.ofList (Text.hexadecimal 4 c.toNat)
      ++ ": special characters are not allowed",
    "  in \"" ++ file ++ "\", position " ++ toString index]
  | fault context what place =>
    let before := match context with
      | none => []
      | some (c, none) => [c.message]
      | some (c, some began) => if began = place then [c.message] else [c.message, placeLine file began]
    before ++ [what.message, placeLine file place]
  | scalar reason => [reason]

def message (file : String) (m : Malformed) : String := String.intercalate "\n" (m.messageLines file)

end Malformed
end IdentSearch.Yaml
