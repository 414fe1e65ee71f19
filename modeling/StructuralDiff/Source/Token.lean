import StructuralDiff.Signature
import StructuralDiff.Source.Tree
import StructuralDiff.Text.Line

/-!
# Tokens of source trees

The tokens of a tree are the trimmed texts of its leaves. Comments and line continuations are left out, and
so are the parentheses of a parenthesized expression and a comma before a closing bracket. What remains
does not depend on how the source is laid out.

* `SourceTree.tokens`: the tokens of a tree.
* `SourceTree.signature`, `symbolSignature`, `headerSignature`: digests of token streams.
-/

namespace StructuralDiff.SourceTree

/-- Kinds of nodes that have no tokens. -/
def ignoredKinds : List String := ["comment", "line_continuation", "html_comment"]

/-- A node that has no tokens. -/
def isIgnored (tree : SourceTree) : Bool :=
  tree.extra || ignoredKinds.contains tree.kind

/-- The first and the last of the children are the parentheses of a parenthesized expression. -/
def isGrouped (kind : String) (children : List SourceTree) : Bool :=
  kind == "parenthesized_expression"
    && (children.head?.map (·.kind)) == some "(" && (children.getLast?.map (·.kind)) == some ")"

/-- The token of a leaf, if its text is not blank. -/
def leafToken (text : String) : List String :=
  let token := Text.trim text
  if token == "" then [] else [token]

/-- What stands for the name of a callee in the signature of a symbol. -/
def maskedCallee : String := "$callee"

mutual

/-- The tokens of a tree, in which leaves at masked places are replaced. -/
def maskedTokens (masked : List (Nat × Nat)) : SourceTree → List String
  | ⟨kind, _, _, extra, _, _, startByte, endByte, _, _, text, children⟩ =>
    if extra || ignoredKinds.contains kind then []
    else if children.isEmpty then
      if masked.contains (startByte, endByte) then [maskedCallee] else leafToken text
    else
      let parts := maskedParts masked children
      (if isGrouped kind children then (parts.drop 1).dropLast else parts).flatten

/-- The tokens of each tree of a list. -/
def maskedParts (masked : List (Nat × Nat)) : List SourceTree → List (List String)
  | [] => []
  | tree :: rest => maskedTokens masked tree :: maskedParts masked rest

end

/-- The tokens of a tree. -/
def tokens (tree : SourceTree) : List String :=
  maskedTokens [] tree

/-- A closing bracket. -/
def isCloser (token : String) : Bool :=
  token == ")" || token == "]" || token == "\x7d"

/-- Leaves out each comma that a closing bracket follows. -/
def dropTrailingCommas : List String → List String
  | [] => []
  | [token] => [token]
  | token :: next :: rest =>
    if token == "," && isCloser next then dropTrailingCommas (next :: rest)
    else token :: dropTrailingCommas (next :: rest)

/-- The token stream that the signature of a tree digests. -/
def stream (tree : SourceTree) : List String :=
  dropTrailingCommas tree.tokens

/-- The signature of a tree. -/
def signature (tree : SourceTree) : String :=
  Signature.ofTokens tree.stream

/-- The name that is called by a call with the given function expression. -/
def calledName? (function : SourceTree) : Option SourceTree :=
  if function.kind == "identifier" then some function
  else if function.kind == "attribute" then function.child? "attribute"
  else if function.kind == "member_expression" then function.child? "property"
  else none

mutual

/-- The places of the names that are called anywhere in a tree. -/
def calleePlaces : SourceTree → List (Nat × Nat)
  | ⟨kind, _, _, _, _, _, _, _, _, _, _, children⟩ =>
    let here :=
      if kind == "call" || kind == "call_expression" then
        let name? := (children.find? (·.field == some "function")).bind calledName?
        (name?.map fun name => (name.startByte, name.endByte)).toList
      else []
    here ++ calleePlacesAll children

/-- The places of the names that are called anywhere in a list of trees. -/
def calleePlacesAll : List SourceTree → List (Nat × Nat)
  | [] => []
  | tree :: rest => calleePlaces tree ++ calleePlacesAll rest

end

/-- The token stream that the signature of a symbol digests: names of callees are masked, so that renaming
a function does not change its callers. -/
def symbolStream (tree : SourceTree) : List String :=
  dropTrailingCommas (maskedTokens (calleePlaces tree) tree)

/-- The signature of a symbol that a tree declares. -/
def symbolSignature (tree : SourceTree) : String :=
  Signature.ofTokens tree.symbolStream

/-- Kinds of children that are the body of a construct. -/
def bodyKinds : List String :=
  ["block", "statement_block", "elif_clause", "else_clause", "except_clause", "except_group_clause",
   "finally_clause", "catch_clause"]

/-- Roles of children that are the body of a construct. -/
def bodyFields : List String := ["body", "consequence", "alternative", "handler", "finalizer"]

/-- A child that is part of the body of its parent. -/
def isBody (tree : SourceTree) : Bool :=
  tree.field.any bodyFields.contains || bodyKinds.contains tree.kind

/-- The token stream of a statement without its body. -/
def headerStream (tree : SourceTree) : List String :=
  if tree.children.isEmpty then tree.stream
  else dropTrailingCommas ((tree.children.filter (!·.isBody)).flatMap tokens)

/-- The signature of a statement without its body. -/
def headerSignature (tree : SourceTree) : String :=
  Signature.ofTokens tree.headerStream

/-- The longest snippet. -/
def snippetLimit : Nat := 70

/-- The first line of a tree, cut off for display. -/
def snippet (tree : SourceTree) : String :=
  let line := Text.trimEnd ((Text.lines tree.text).headD "")
  if line.length ≤ snippetLimit then line
  else String.ofList (line.toList.take (snippetLimit - 3)) ++ "..."

/-- The text of a tree with blanks collapsed. -/
def compactText (tree : SourceTree) : String :=
  Text.collapse tree.text

end StructuralDiff.SourceTree
