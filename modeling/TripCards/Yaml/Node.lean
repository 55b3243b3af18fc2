/-
A YAML document as a tree.

Anchors are numbered: one that is set has as its number how many names have anchors by then, and an
alias the number of the anchor that has its name. An alias stands for the last node of its number.
-/
import TripCards.Entries
import TripCards.Yaml.Scan

namespace TripCards
namespace Yaml

inductive Node where
  | scalar (anchor : Option Nat) (tag : Option String) (style : ScalarStyle) (text : String)
  | sequence (anchor : Option Nat) (items : List Node)
  | mapping (anchor : Option Nat) (entries : List (Node × Node))
  | reference (number : Nat)

namespace Node

/-- A node that is left out. -/
def missing : Node := scalar none none .plain ""

def anchor? : Node → Option Nat
  | scalar anchor _ _ _ => anchor
  | sequence anchor _ => anchor
  | mapping anchor _ => anchor
  | reference _ => none

mutual

/-- The last node with a number; a node comes before what it holds. -/
def find? (number : Nat) : Node → Option Node
  | scalar anchor tag style text =>
      if anchor = some number then some (scalar anchor tag style text) else none
  | sequence anchor items =>
    match findInItems? number items with
    | some node => some node
    | none => if anchor = some number then some (sequence anchor items) else none
  | mapping anchor entries =>
    match findInEntries? number entries with
    | some node => some node
    | none => if anchor = some number then some (mapping anchor entries) else none
  | reference _ => none

def findInItems? (number : Nat) : List Node → Option Node
  | [] => none
  | item :: rest =>
    match findInItems? number rest with
    | some node => some node
    | none => item.find? number

def findInEntries? (number : Nat) : List (Node × Node) → Option Node
  | [] => none
  | (key, value) :: rest =>
    match findInEntries? number rest with
    | some node => some node
    | none =>
      match value.find? number with
      | some node => some node
      | none => key.find? number

end

/-- What a node of a document stands for. -/
def resolve (document : Node) : Node → Node
  | reference number => (document.find? number).getD missing
  | node => node

end Node

/-! ## Reading tokens -/

/-- The tokens that are left, what the handles of tags stand for, and the numbers of the anchors by
their names. -/
structure Parsing where
  tokens : List Token
  handles : Entries String
  anchors : Entries Nat

abbrev Parse (α : Type) : Type := StateT Parsing (Except Fault) α

namespace Parse

def peek : Parse (Option Token) := do
  return (← get).tokens.head?

def skip : Parse Unit :=
  modify fun p => { p with tokens := p.tokens.tail }

/-- The number of an anchor, which is set. -/
def setAnchor (name : String) : Parse Nat := do
  let p ← get
  let number := p.anchors.length
  set { p with anchors := Entries.put p.anchors name number }
  return number

def aliasNumber (name : String) : Parse Nat := do
  match Entries.get? (← get).anchors name with
  | some number => return number
  | none => throw (.unknownAlias name)

/-- A tag in full. Without a handle it is in full already. -/
def tagOf (handle suffix : String) : Parse String := do
  if handle.isEmpty then return suffix
  match Entries.get? (← get).handles handle with
  | some meaning => return meaning ++ suffix
  | none => throw (.unknownHandle handle)

/-- What stands before a node: its anchor and its tag, in either order. -/
structure Properties where
  anchor : Option Nat
  tag : Option String

def Properties.isNothing (properties : Properties) : Bool :=
  properties.anchor.isNone && properties.tag.isNone

def anchor : Parse (Option Nat) := do
  match ← peek with
  | some (.anchor name) =>
    skip
    return some (← setAnchor name)
  | _ => return none

def tag : Parse (Option (String × String)) := do
  match ← peek with
  | some (.tag handle suffix) =>
    skip
    return some (handle, suffix)
  | _ => return none

def properties : Parse Properties := do
  let early ← anchor
  let tag ← tag
  let late ← if early.isNone && tag.isSome then anchor else pure none
  let tag ← match tag with
    | some (handle, suffix) => some <$> tagOf handle suffix
    | none => pure none
  return ⟨early.or late, tag⟩

/-- Tokens that follow a node in a block collection. -/
def endsInBlock : Option Token → Bool
  | some .key | some .value | some .blockEnd => true
  | _ => false

mutual

/-- One node. Items of a sequence may stand in the column of the key that they belong to, where
`looseItems` says so. -/
def node (fuel : Nat) (inBlock looseItems : Bool) : Parse Node :=
  match fuel with
  | 0 => throw .tooDeep
  | fuel + 1 => do
    if let some (.reference name) ← peek then
      skip
      return .reference (← aliasNumber name)
    let properties ← properties
    match ← peek with
    | some (.scalar style text) =>
      skip
      return .scalar properties.anchor properties.tag style text
    | some .openSequence =>
      skip
      return .sequence properties.anchor (← bracketItems fuel true)
    | some .openMapping =>
      skip
      return .mapping properties.anchor (← bracketEntries fuel true)
    | some .item =>
      if looseItems then return .sequence properties.anchor (← looseItemsFrom fuel)
      else if properties.isNothing then throw .missingNode
      else return .scalar properties.anchor properties.tag .plain ""
    | some .blockSequence =>
      if inBlock then
        skip
        return .sequence properties.anchor (← blockItems fuel)
      else if properties.isNothing then throw .missingNode
      else return .scalar properties.anchor properties.tag .plain ""
    | some .blockMapping =>
      if inBlock then
        skip
        return .mapping properties.anchor (← blockEntries fuel)
      else if properties.isNothing then throw .missingNode
      else return .scalar properties.anchor properties.tag .plain ""
    | _ =>
      if properties.isNothing then throw .missingNode
      else return .scalar properties.anchor properties.tag .plain ""

def blockItems (fuel : Nat) : Parse (List Node) :=
  match fuel with
  | 0 => throw .tooDeep
  | fuel + 1 => do
    match ← peek with
    | some .item =>
      skip
      let next ← peek
      let item ← if next = some .item || next = some .blockEnd then pure .missing
        else node fuel true false
      return item :: (← blockItems fuel)
    | some .blockEnd =>
      skip
      return []
    | _ => throw .missingItem

/-- Items that no block collection of their own holds. -/
def looseItemsFrom (fuel : Nat) : Parse (List Node) :=
  match fuel with
  | 0 => throw .tooDeep
  | fuel + 1 => do
    match ← peek with
    | some .item =>
      skip
      let next ← peek
      let item ← if next = some .item || endsInBlock next then pure .missing
        else node fuel true false
      return item :: (← looseItemsFrom fuel)
    | _ => return []

def blockEntries (fuel : Nat) : Parse (List (Node × Node)) :=
  match fuel with
  | 0 => throw .tooDeep
  | fuel + 1 => do
    match ← peek with
    | some .key =>
      skip
      let key ← if endsInBlock (← peek) then pure .missing else node fuel true true
      let value ← match ← peek with
        | some .value => do
          skip
          if endsInBlock (← peek) then pure .missing else node fuel true true
        | _ => pure .missing
      return (key, value) :: (← blockEntries fuel)
    | some .blockEnd =>
      skip
      return []
    | _ => throw .missingKey

/-- Items in brackets. A comma stands between two of them, and may stand behind the last. -/
def bracketItems (fuel : Nat) (isFirst : Bool) : Parse (List Node) :=
  match fuel with
  | 0 => throw .tooDeep
  | fuel + 1 => do
    if (← peek) = some .closeSequence then
      skip
      return []
    if !isFirst then
      if (← peek) = some .comma then skip else throw .missingComma
    match ← peek with
    | some .closeSequence =>
      skip
      return []
    | some .key =>
      skip
      let entry ← bracketPair fuel
      return .mapping none [entry] :: (← bracketItems fuel false)
    | _ =>
      let item ← node fuel false false
      return item :: (← bracketItems fuel false)

/-- A key and its value as an item in brackets. The token behind the mark of a key that is left out
goes with it. -/
def bracketPair (fuel : Nat) : Parse (Node × Node) :=
  match fuel with
  | 0 => throw .tooDeep
  | fuel + 1 => do
    let next ← peek
    let key ← if next = some .value || next = some .comma || next = some .closeSequence then do
        skip
        pure .missing
      else node fuel false false
    let value ← match ← peek with
      | some .value => do
        skip
        let next ← peek
        if next = some .comma || next = some .closeSequence then pure .missing
        else node fuel false false
      | _ => pure .missing
    return (key, value)

/-- Entries in brackets. A node without the mark of a key is a key without a value. -/
def bracketEntries (fuel : Nat) (isFirst : Bool) : Parse (List (Node × Node)) :=
  match fuel with
  | 0 => throw .tooDeep
  | fuel + 1 => do
    if (← peek) = some .closeMapping then
      skip
      return []
    if !isFirst then
      if (← peek) = some .comma then skip else throw .missingComma
    match ← peek with
    | some .closeMapping =>
      skip
      return []
    | some .key =>
      skip
      let next ← peek
      let key ← if next = some .value || next = some .comma || next = some .closeMapping then
          pure .missing
        else node fuel false false
      let value ← match ← peek with
        | some .value => do
          skip
          let next ← peek
          if next = some .comma || next = some .closeMapping then pure .missing
          else node fuel false false
        | _ => pure .missing
      return (key, value) :: (← bracketEntries fuel false)
    | _ =>
      let key ← node fuel false false
      return (key, .missing) :: (← bracketEntries fuel false)

end

/-! ## Documents -/

/-- The directives before a document: a version at most, and one meaning for a handle. -/
def directives (hasVersion : Bool) (handles : Entries String) :
    List Token → Except Fault (Entries String × List Token)
  | .version major minor :: rest =>
      if hasVersion then .error .repeatedDirective
      else if major == 1 && (minor == 1 || minor == 2) then directives true handles rest
      else .error .unknownVersion
  | .handle name meaning :: rest =>
      if Entries.has handles name then .error .repeatedDirective
      else directives hasVersion (Entries.put handles name meaning) rest
  | tokens => .ok (handles, tokens)

def standardHandles : Entries String := [("!", "!"), ("!!", "tag:yaml.org,2002:")]

/-- The handles with their standard meanings where no directive gives one. -/
def withStandard (handles : Entries String) : Entries String :=
  handles ++ standardHandles.filter fun (name, _) => !Entries.has handles name

/-- The content of a document, which may be left out behind its mark. -/
def content (marked : Bool) (tokens : List Token) : Parse Node :=
  let isLeftOut := match tokens with
    | [] | .documentStart :: _ | .documentEnd :: _ | .version _ _ :: _ | .handle _ _ :: _ => true
    | _ => false
  if marked && isLeftOut then return .missing
  else node (4 * (tokens.length + 1)) true false

end Parse

/-- The only document of a text; nothing for a text without one. -/
def Node.ofTokens (tokens : List Token) : Except Fault (Option Node) := do
  if tokens.isEmpty then return none
  let (handles, rest) ← Parse.directives false [] tokens
  let marked := rest.head? == some .documentStart
  if !marked && rest.length != tokens.length then throw .missingStart
  let body := if marked then rest.tail else rest
  let (root, parsing) ← (Parse.content marked body).run ⟨body, Parse.withStandard handles, []⟩
  if parsing.tokens.all (· == .documentEnd) then return some root
  else throw .severalDocuments

def Node.ofString (text : String) : Except Fault (Option Node) := do
  Node.ofTokens (← Token.listOf text)

end Yaml
end TripCards
