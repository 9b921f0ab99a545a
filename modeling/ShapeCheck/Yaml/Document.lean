import ShapeCheck.Yaml.Lexer
import ShapeCheck.Yaml.Node

/-!
# The value of a YAML document

* `Draft`: the tokens that are left, and the nodes that have names;
* `Compose`: what takes tokens and gives a value, or fails;
* `node`: the node that comes next;
* `Yaml.read?`: the value of a text with one document, and no value of a text with none.
-/

namespace ShapeCheck.Yaml

/-- The tokens that are left, the numbers of the nodes that have names, those nodes, and what
handles stand for. -/
structure Draft where
  tokens : List Token
  names : List (String × Nat)
  nodes : Array Node
  handles : List (String × String)

/-- What takes tokens and gives a value, or fails. -/
abbrev Compose := StateT Draft Option

namespace Compose

/-- The token that comes next. -/
def peek : Compose (Option Token) := return (← get).tokens.head?

/-- The token that comes next is left out. -/
def skip : Compose Unit := modify fun d => { d with tokens := d.tokens.drop 1 }

/-- Whether one of some tokens comes next. -/
def isAhead (ts : List Token) : Compose Bool := return (← peek).any ts.contains

/-- A number that is larger than that of the tokens left. -/
def fuel : Compose Nat := return (← get).tokens.length + 1

/-! ### Properties of nodes -/

/-- What the handle of the core stands for. -/
def core : String := "tag:yaml.org,2002:"

/-- What the handle of a tag stands for. -/
def expansion? (handles : List (String × String)) (handle suffix : String) : Option String :=
  if handle = "!!" then some ((handles.lookup handle).getD core)
  else if handle = "" ∧ suffix = "!" then some ((handles.lookup handle).getD "")
  else
    match handles.lookup handle with
    | some expansion => some expansion
    | none => if 2 ≤ handle.length ∧ handle.endsWith "!" then none else some handle

/-- The tag that comes next, if there is one: the expansion of its handle, and its suffix. -/
def tag : Compose (Option (String × String)) := do
  match ← peek with
  | some (.tag handle suffix) => do
    skip
    let expansion ← expansion? (← get).handles handle suffix
    return some (expansion, suffix)
  | _ => return none

/-- The anchor that comes next, if there is one, and the number of its node, which is known from
here on.  Until it is complete the node is not valid. -/
def anchor : Compose (Option Nat) := do
  match ← peek with
  | some (.anchor name) => do
    skip
    let d ← get
    set { d with
      names := (name, d.nodes.size) :: d.names
      nodes := d.nodes.push (.scalar .invalid) }
    return some d.nodes.size
  | _ => return none

/-- The anchor and the tag that come next, in either order. -/
def properties : Compose (Option Nat × Option (String × String)) := do
  match ← anchor with
  | some n => return (some n, ← tag)
  | none =>
    match ← tag with
    | some t => return (← anchor, some t)
    | none => return (none, none)

/-- The node of a scalar. -/
def scalarNode (tag : Option (String × String)) (plain : Bool) (text : String) : Node :=
  .scalar <|
    if !plain then .text text
    else
      match tag with
      | none => .ofPlain text
      | some (handle, suffix) => if handle = core then .ofTagged suffix text else .text text

/-- The node that an alias stands for. -/
def aliased (name : String) : Compose Node := do
  let d ← get
  match (d.names.lookup name).bind fun n => d.nodes[n]? with
  | some v => return v
  | none => failure

/-! ### Lists and tables

What composes a node takes two flags: whether the node may be indented, and whether it may be a list
whose dashes are not. -/

/-- The node behind a mark, none if one of some tokens comes next. -/
def nodeUnless (node : Bool → Bool → Compose Node) (block indentless : Bool)
    (ends : List Token) : Compose Node := do
  if ← isAhead ends then return .null else node block indentless

/-- The elements of an indented list; the fuel bounds their number. -/
def blockList (node : Bool → Bool → Compose Node) : Nat → Compose (List Node)
  | 0 => failure
  | fuel + 1 => do
    match ← peek with
    | some .blockEnd => do
      skip
      return []
    | some .blockEntry => do
      skip
      let v ← nodeUnless node true false [.blockEntry, .blockEnd]
      return v :: (← blockList node fuel)
    | _ => failure

/-- The elements of a list whose dashes are not indented; the fuel bounds their number. -/
def indentlessList (node : Bool → Bool → Compose Node) : Nat → Compose (List Node)
  | 0 => failure
  | fuel + 1 => do
    match ← peek with
    | some .blockEntry => do
      skip
      let v ← nodeUnless node true false [.blockEntry, .key, .value, .blockEnd]
      return v :: (← indentlessList node fuel)
    | _ => return []

/-- The value behind its mark; without the mark there is none. -/
def valueUnless (node : Bool → Bool → Compose Node) (block : Bool) (ends : List Token) :
    Compose Node := do
  match ← peek with
  | some .value => do
    skip
    nodeUnless node block block ends
  | _ => return .null

/-- The tokens behind which there is no name and no value in an indented table. -/
def blockEnds : List Token := [.key, .value, .blockEnd]

/-- The names and values of an indented table; the fuel bounds their number. -/
def blockTable (node : Bool → Bool → Compose Node) : Nat → Compose (List Node)
  | 0 => failure
  | fuel + 1 => do
    match ← peek with
    | some .key => do
      skip
      let name ← nodeUnless node true true blockEnds
      let v ← valueUnless node true blockEnds
      return name :: v :: (← blockTable node fuel)
    | some .value => do
      let v ← valueUnless node true blockEnds
      return .null :: v :: (← blockTable node fuel)
    | some .blockEnd => do
      skip
      return []
    | _ => failure

/-- The comma in front of an item, which the first item has not. -/
def comma (first : Bool) : Compose Unit := do
  if !first then
    match ← peek with
    | some .flowEntry => skip
    | _ => failure

/-- The tokens behind which there is no value in a table in braces. -/
def flowEnds : List Token := [.flowEntry, .tableEnd]

/-- A name and a value in a table in braces. -/
def flowEntry (node : Bool → Bool → Compose Node) : Compose (Node × Node) := do
  match ← peek with
  | some .key => do
    skip
    let name ← nodeUnless node false false (.value :: flowEnds)
    return (name, ← valueUnless node false flowEnds)
  | some .value => return (.null, ← valueUnless node false flowEnds)
  | _ => return (← node false false, .null)

/-- The names and values of a table in braces; the fuel bounds their number. -/
def flowTable (node : Bool → Bool → Compose Node) : Nat → Bool → Compose (List Node)
  | 0, _ => failure
  | fuel + 1, first => do
    if ← isAhead [.tableEnd] then
      skip
      return []
    else
      comma first
      if ← isAhead [.tableEnd] then
        skip
        return []
      else
        let (name, v) ← flowEntry node
        return name :: v :: (← flowTable node fuel false)

/-- A table of one entry that stands in a list without braces, behind the mark of its name.  The
name may not be missing. -/
def pair (node : Bool → Bool → Compose Node) : Compose Node := do
  let name ← node false false
  let v ← valueUnless node false [.flowEntry, .listEnd]
  Node.ofPairs? [name, v]

/-- An element of a list in brackets. -/
def flowElement (node : Bool → Bool → Compose Node) : Compose Node := do
  match ← peek with
  | some .key => do
    skip
    pair node
  | _ => node false false

/-- The elements of a list in brackets; the fuel bounds their number. -/
def flowList (node : Bool → Bool → Compose Node) : Nat → Bool → Compose (List Node)
  | 0, _ => failure
  | fuel + 1, first => do
    if ← isAhead [.listEnd] then
      skip
      return []
    else
      comma first
      if ← isAhead [.listEnd] then
        skip
        return []
      else
        let v ← flowElement node
        return v :: (← flowList node fuel false)

/-! ### Nodes -/

/-- The table of names and values. -/
def tableOf (nodes : List Node) : Compose Node := liftM (Node.ofPairs? nodes)

/-- What stands behind the properties of a node; with properties it may be missing. -/
def content (node : Bool → Bool → Compose Node) (block indentless bare : Bool)
    (tag : Option (String × String)) : Compose Node := do
  let n ← fuel
  match ← peek with
  | some (.scalar plain text) => do
    skip
    return scalarNode tag plain text
  | some .listStart => do
    skip
    return .list (← flowList node n true)
  | some .tableStart => do
    skip
    tableOf (← flowTable node n true)
  | t =>
    if t = some .blockEntry ∧ indentless then
      return .list (← indentlessList node n)
    else if t = some .blockList ∧ block then
      skip
      return .list (← blockList node n)
    else if t = some .blockTable ∧ block then
      skip
      tableOf (← blockTable node n)
    else if bare then failure
    else return scalarNode tag true ""

/-- The node that comes next and nests less deep than given. -/
def node : Nat → Bool → Bool → Compose Node
  | 0, _, _ => failure
  | depth + 1, block, indentless => do
    match ← peek with
    | some (.alias name) => do
      skip
      aliased name
    | _ => do
      let (number, tag) ← properties
      let v ← content (node depth) block indentless (number.isNone && tag.isNone) tag
      match number with
      | some n => modify fun d => { d with nodes := d.nodes.setIfInBounds n v }
      | none => pure ()
      return v

/-! ### Documents -/

/-- The directives that come next, of which that for the version may stand once; and whether there
are any.  What the last of them says of handles holds.  The fuel bounds their number. -/
def directives : Nat → Bool → Compose Bool
  | 0, _ => failure
  | fuel + 1, versioned => do
    match ← peek with
    | some .version => do
      if versioned then failure
      skip
      modify fun d => { d with handles := [] }
      let _ ← directives fuel true
      return true
    | some (.handle name expansion) => do
      skip
      modify fun d => { d with handles := [(name, expansion)] }
      let _ ← directives fuel versioned
      return true
    | _ => return false

/-- The value of the only document. -/
def document : Compose Node := do
  let n ← fuel
  let directed ← directives n false
  match ← peek with
  | some .documentStart => do
    skip
    let d ← get
    if d.tokens.isEmpty || (← isAhead [.documentStart, .documentEnd]) then return .null
    else node n true false
  | _ => if directed then failure else node n true false

/-- The value of tokens that make one document, and nothing behind but marks for its end. -/
def value? (tokens : List Token) : Option Node :=
  match document.run { tokens, names := [], nodes := #[], handles := [] } with
  | some (v, d) => if d.tokens.all (· = .documentEnd) then some v else none
  | none => none

end Compose

/-- The value of a text with one document, and no value of a text with none. -/
def read? (text : String) : Option (Option Node) := do
  let tokens := (← tokens? text).dropWhile (· = .documentEnd)
  if tokens.isEmpty then some none else (Compose.value? tokens).map some

end ShapeCheck.Yaml
