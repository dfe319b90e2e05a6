import Nomen.Json.Token

/-!
Documents as trees. A text that is no document still has a tree: it goes as far as the text can be
read, and the first fault stands where reading stopped. So whoever walks a tree in the order of its
text meets whatever is wrong with it in that order.
-/

namespace Nomen.Json

inductive Place where
  | value | items | members

inductive Tree : Place → Type where
  | null : Tree .value
  | bool (value : Bool) : Tree .value
  | number (value : Number) : Tree .value
  | string (text : Option String) : Tree .value
  | array (items : Tree .items) : Tree .value
  | object (members : Tree .members) : Tree .value
  | noItems : Tree .items
  | item (head : Tree .value) (tail : Tree .items) : Tree .items
  | noMembers : Tree .members
  | member (key : Option String) (value : Tree .value) (tail : Tree .members) : Tree .members
  | broken {place : Place} (fault : Fault) : Tree place

abbrev Value := Tree .value
abbrev Items := Tree .items
abbrev Members := Tree .members

namespace Tree

def fault? {place : Place} : Tree place → Option Fault
  | array items => items.fault?
  | object members => members.fault?
  | item head tail => head.fault? <|> tail.fault?
  | member _ value tail => value.fault? <|> tail.fault?
  | broken fault => some fault
  | null | bool _ | number _ | string _ | noItems | noMembers => none

def isWhole {place : Place} (tree : Tree place) : Bool :=
  tree.fault?.isNone

end Tree

def misplaced : List Token → Fault
  | .fault fault :: _ => fault
  | _ => ⟨.arrangement, []⟩

mutual

def parseValue : Nat → List Token → Value × List Token
  | _ + 1, .null :: rest => (.null, rest)
  | _ + 1, .bool value :: rest => (.bool value, rest)
  | _ + 1, .number value :: rest => (.number value, rest)
  | _ + 1, .string text :: rest => (.string text, rest)
  | _ + 1, .openBracket :: .closeBracket :: rest => (.array .noItems, rest)
  | fuel + 1, .openBracket :: tokens =>
    let (items, rest) := parseItems fuel tokens
    (.array items, rest)
  | _ + 1, .openBrace :: .closeBrace :: rest => (.object .noMembers, rest)
  | fuel + 1, .openBrace :: tokens =>
    let (members, rest) := parseMembers fuel tokens
    (.object members, rest)
  | _, tokens => (.broken (misplaced tokens), [])

def parseItems : Nat → List Token → Items × List Token
  | 0, tokens => (.broken (misplaced tokens), [])
  | fuel + 1, tokens =>
    match parseValue fuel tokens with
    | (head, .comma :: rest) =>
      let (tail, rest) := parseItems fuel rest
      (.item head tail, rest)
    | (head, .closeBracket :: rest) => (.item head .noItems, rest)
    | (head, rest) => (.item head (.broken (misplaced rest)), [])

def parseMembers : Nat → List Token → Members × List Token
  | 0, tokens => (.broken (misplaced tokens), [])
  | fuel + 1, .string key :: .colon :: tokens =>
    match parseValue fuel tokens with
    | (value, .comma :: rest) =>
      let (tail, rest) := parseMembers fuel rest
      (.member key value tail, rest)
    | (value, .closeBrace :: rest) => (.member key value .noMembers, rest)
    | (value, rest) => (.member key value (.broken (misplaced rest)), [])
  | _ + 1, .string key :: tokens =>
    (.member key (.broken (misplaced tokens)) (.broken (misplaced tokens)), [])
  | _ + 1, tokens => (.broken (misplaced tokens), [])

end

structure Document where
  value : Value
  ended : Bool

def Document.ofText (text : String) : Document :=
  let tokens := scan text.toList
  -- Of two steps down at least one takes a token.
  let (value, rest) := parseValue (2 * tokens.length + 1) tokens
  ⟨value, rest.isEmpty⟩

end Nomen.Json
