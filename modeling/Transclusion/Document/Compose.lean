import Transclusion.Document.Scanner

/-!
# YAML documents

Turns the scanner's tokens into a tree of nodes, the way the reference YAML
reader does: a recursive descent with one function per grammar state, which
peeks tokens in the same order as the reference's event parser, so that a
failure in the scanner's lookahead is met at the same point.

Only the first document of a stream is read. Nodes carry their tag (the
short form `!!str` for the standard ones) and the line, counted from one,
where they start. A plain scalar without a tag gets the tag its text
resolves to; a quoted or block scalar gets `!!str`.

An alias refers to the node its anchor named when the alias was read, by
number: anchored nodes are kept in a table filled in as each one is
complete, so an alias inside the node it names refers to that node.
-/

namespace Transclusion.Yaml

/-- A node of a YAML document. -/
inductive Node where
  | scalar (text : String) (tag : String) (style : ScalarStyle) (line : Nat)
  | sequence (tag : String) (items : List Node) (line : Nat)
  | mapping (tag : String) (entries : List (Node × Node)) (line : Nat)
  /-- An alias of the anchored node numbered `target`; `occurrence` numbers
  the alias itself. -/
  | alias (name : String) (target : Nat) (occurrence : Nat) (line : Nat)
  deriving Repr, Inhabited

def Node.line : Node → Nat
  | .scalar _ _ _ l => l
  | .sequence _ _ l => l
  | .mapping _ _ l => l
  | .alias _ _ _ l => l

def standardPrefix : String := "tag:yaml.org,2002:"

/-- The short form of a tag: the standard prefix becomes `!!`. -/
def shortTag (tag : String) : String :=
  if tag.startsWith standardPrefix then "!!" ++ String.ofList (tag.toList.drop standardPrefix.length)
  else tag

/-- A document: its root and the anchored nodes aliases refer to. -/
structure Document where
  root : Node
  anchored : Array Node
  deriving Inhabited

/-- The composer's state. -/
structure Composer where
  scanner : Scanner
  /-- The tag handles of the document with their prefixes. -/
  handles : List (String × String) := []
  /-- Anchor names, newest first, with the number of the node they name. -/
  anchors : List (String × Nat) := []
  /-- Anchored nodes by number, each set once the node is complete. -/
  anchored : Array Node := #[]
  /-- Aliases read so far. -/
  aliases : Nat := 0

abbrev ComposeM := StateT Composer (Except YamlError)

namespace Compose

def peek : ComposeM Token := do
  let c ← get
  match c.scanner.peekToken with
  | .error e => throw e
  | .ok (t, s) =>
    set { c with scanner := s }
    pure t

def skip : ComposeM Unit := modify fun c => { c with scanner := c.scanner.skipToken }

def grammarError (context : String) (contextMark : Mark) (problem : String) (problemMark : Mark) :
    YamlError :=
  { stage := .parser, context, contextMark, problem, problemMark }

/-- The tag a node gets: an explicit tag other than `!` in short form, else
the default. -/
def nodeTag (explicit default : String) : String :=
  if explicit != "" && explicit != "!" then shortTag explicit else default

def reserve (anchor : Option String) : ComposeM (Option Nat) := do
  match anchor with
  | none => pure none
  | some name =>
    let c ← get
    let id := c.anchored.size
    set { c with anchored := c.anchored.push default, anchors := (name, id) :: c.anchors }
    pure (some id)

def complete (id : Option Nat) (n : Node) : ComposeM Node := do
  if let some i := id then
    modify fun c => { c with anchored := c.anchored.set! i n }
  pure n

def endsBlockEntry (k : TokenKind) : Bool :=
  match k with
  | .key | .value | .blockEnd => true
  | _ => false

/-- A scalar with nothing written, which is null unless tagged. -/
def emptyScalar (tag : String) (mark : Mark) (resolve : String → String) : Node :=
  .scalar "" (nodeTag tag (resolve "")) .plain (mark.line + 1)

mutual

/-- A node in block (`block`) or flow context; in a block mapping a
sequence may start at the mapping's own column (`indentless`). The tag of
an untagged plain scalar comes from `resolve`. -/
def node (resolve : String → String) : Nat → Bool → Bool → ComposeM Node
  | 0, _, _ => throw { stage := .composer, problem := "document is too deeply nested" }
  | fuel + 1, block, indentless => do
    let t ← peek
    if let .alias name := t.kind then
      skip
      let c ← get
      match c.anchors.lookup name with
      | none => throw { stage := .composer, problem := "unknown anchor '" ++ name ++ "' referenced" }
      | some id =>
        set { c with aliases := c.aliases + 1 }
        return .alias name id c.aliases (t.start.line + 1)
    let start := t.start
    let line := start.line + 1
    -- anchor and tag, in either order
    let mut t := t
    let mut anchor : Option String := none
    let mut tagged : Option (String × String × Mark) := none
    match t.kind with
    | .anchor a =>
      anchor := some a
      skip
      t ← peek
      if let .tag h s := t.kind then
        tagged := some (h, s, t.start)
        skip
        t ← peek
    | .tag h s =>
      tagged := some (h, s, t.start)
      skip
      t ← peek
      if let .anchor a := t.kind then
        anchor := some a
        skip
        t ← peek
    | _ => pure ()
    let tag ← match tagged with
      | none => pure ""
      | some (h, s, m) =>
        if h.isEmpty then pure s
        else match (← get).handles.lookup h with
          | some p => pure (p ++ s)
          | none => throw (grammarError "while parsing a node" start "found undefined tag handle" m)
    let id ← reserve anchor
    if indentless && t.kind == .blockEntry then
      let items ← indentlessEntries resolve fuel []
      return ← complete id (.sequence (nodeTag tag "!!seq") items line)
    match t.kind with
    | .scalar text style =>
      skip
      let dflt := if style != .plain then "!!str" else if text == "<<" then "!!merge" else resolve text
      complete id (.scalar text (nodeTag tag dflt) style line)
    | .flowSequenceStart =>
      let ctx := t.start
      skip
      let items ← flowSequence resolve fuel ctx true []
      complete id (.sequence (nodeTag tag "!!seq") items line)
    | .flowMappingStart =>
      let ctx := t.start
      skip
      let entries ← flowMapping resolve fuel ctx true []
      complete id (.mapping (nodeTag tag "!!map") entries line)
    | .blockSequenceStart =>
      if block then
        let ctx := t.start
        skip
        let items ← blockSequence resolve fuel ctx []
        complete id (.sequence (nodeTag tag "!!seq") items line)
      else if anchor.isSome || tag != "" then complete id (emptyScalar tag start resolve)
      else throw (grammarError "while parsing a flow node" start "did not find expected node content" t.start)
    | .blockMappingStart =>
      if block then
        let ctx := t.start
        skip
        let entries ← blockMapping resolve fuel ctx []
        complete id (.mapping (nodeTag tag "!!map") entries line)
      else if anchor.isSome || tag != "" then complete id (emptyScalar tag start resolve)
      else throw (grammarError "while parsing a flow node" start "did not find expected node content" t.start)
    | _ =>
      if anchor.isSome || tag != "" then complete id (emptyScalar tag start resolve)
      else
        let context := if block then "while parsing a block node" else "while parsing a flow node"
        throw (grammarError context start "did not find expected node content" t.start)

def blockSequence (resolve : String → String) : Nat → Mark → List Node → ComposeM (List Node)
  | 0, _, _ => throw { stage := .composer, problem := "document is too deeply nested" }
  | fuel + 1, ctx, acc => do
    let t ← peek
    match t.kind with
    | .blockEntry =>
      let mark := t.stop
      skip
      let t ← peek
      let item ← match t.kind with
        | .blockEntry | .blockEnd => pure (emptyScalar "" mark resolve)
        | _ => node resolve fuel true false
      blockSequence resolve fuel ctx (item :: acc)
    | .blockEnd =>
      skip
      pure acc.reverse
    | _ => throw (grammarError "while parsing a block collection" ctx "did not find expected '-' indicator" t.start)

def indentlessEntries (resolve : String → String) : Nat → List Node → ComposeM (List Node)
  | 0, _ => throw { stage := .composer, problem := "document is too deeply nested" }
  | fuel + 1, acc => do
    let t ← peek
    match t.kind with
    | .blockEntry =>
      let mark := t.stop
      skip
      let t ← peek
      let item ← if t.kind == .blockEntry || endsBlockEntry t.kind then pure (emptyScalar "" mark resolve)
        else node resolve fuel true false
      indentlessEntries resolve fuel (item :: acc)
    | _ => pure acc.reverse

def blockMapping (resolve : String → String) : Nat → Mark → List (Node × Node) → ComposeM (List (Node × Node))
  | 0, _, _ => throw { stage := .composer, problem := "document is too deeply nested" }
  | fuel + 1, ctx, acc => do
    let t ← peek
    match t.kind with
    | .key =>
      let mark := t.stop
      skip
      let t ← peek
      let key ← if endsBlockEntry t.kind then pure (emptyScalar "" mark resolve)
        else node resolve fuel true true
      let t ← peek
      let value ← if t.kind == .value then do
          let mark := t.stop
          skip
          let t ← peek
          if endsBlockEntry t.kind then pure (emptyScalar "" mark resolve)
          else node resolve fuel true true
        else pure (emptyScalar "" t.start resolve)
      blockMapping resolve fuel ctx ((key, value) :: acc)
    | .blockEnd =>
      skip
      pure acc.reverse
    | _ => throw (grammarError "while parsing a block mapping" ctx "did not find expected key" t.start)

/-- The entries of a flow sequence, after `[`. -/
def flowSequence (resolve : String → String) : Nat → Mark → Bool → List Node → ComposeM (List Node)
  | 0, _, _, _ => throw { stage := .composer, problem := "document is too deeply nested" }
  | fuel + 1, ctx, first, acc => do
    let mut cur ← peek
    if cur.kind != .flowSequenceEnd then
      if !first then
        if cur.kind == .flowEntry then
          skip
          cur ← peek
        else
          throw (grammarError "while parsing a flow sequence" ctx "did not find expected ',' or ']'" cur.start)
      if cur.kind == .key then
        -- a single pair written as an entry
        let line := cur.start.line + 1
        skip
        let t ← peek
        let key ← match t.kind with
          | .value | .flowEntry | .flowSequenceEnd =>
            let mark := t.stop
            skip
            pure (emptyScalar "" mark resolve)
          | _ => node resolve fuel false false
        let t ← peek
        let value ← if t.kind == .value then do
            skip
            let t ← peek
            match t.kind with
            | .flowEntry | .flowSequenceEnd => pure (emptyScalar "" t.start resolve)
            | _ => node resolve fuel false false
          else pure (emptyScalar "" t.start resolve)
        let _ ← peek
        return ← flowSequence resolve fuel ctx false (.mapping "!!map" [(key, value)] line :: acc)
      if cur.kind != .flowSequenceEnd then
        let item ← node resolve fuel false false
        return ← flowSequence resolve fuel ctx false (item :: acc)
    skip
    pure acc.reverse

/-- The entries of a flow mapping, after `\x7b`. -/
def flowMapping (resolve : String → String) : Nat → Mark → Bool → List (Node × Node) →
    ComposeM (List (Node × Node))
  | 0, _, _, _ => throw { stage := .composer, problem := "document is too deeply nested" }
  | fuel + 1, ctx, first, acc => do
    let mut cur ← peek
    if cur.kind != .flowMappingEnd then
      if !first then
        if cur.kind == .flowEntry then
          skip
          cur ← peek
        else
          throw (grammarError "while parsing a flow mapping" ctx "did not find expected ',' or '\x7d'" cur.start)
      if cur.kind == .key then
        skip
        let t ← peek
        let key ← match t.kind with
          | .value | .flowEntry | .flowMappingEnd => pure (emptyScalar "" t.start resolve)
          | _ => node resolve fuel false false
        let t ← peek
        let value ← if t.kind == .value then do
            skip
            let t ← peek
            match t.kind with
            | .flowEntry | .flowMappingEnd => pure (emptyScalar "" t.start resolve)
            | _ => node resolve fuel false false
          else pure (emptyScalar "" t.start resolve)
        return ← flowMapping resolve fuel ctx false ((key, value) :: acc)
      if cur.kind != .flowMappingEnd then
        let key ← node resolve fuel false false
        let t ← peek
        return ← flowMapping resolve fuel ctx false ((key, emptyScalar "" t.start resolve) :: acc)
    skip
    pure acc.reverse

end

def directives : Nat → Bool → List (String × String) → ComposeM Unit
  | 0, _, _ => throw { stage := .composer, problem := "document is too deeply nested" }
  | fuel + 1, versionSeen, handles => do
    let t ← peek
    match t.kind with
    | .versionDirective major minor =>
      if versionSeen then throw (grammarError "" {} "found duplicate %YAML directive" t.start)
      if major != 1 || minor != 1 then throw (grammarError "" {} "found incompatible YAML document" t.start)
      skip
      directives fuel true handles
    | .tagDirective h p =>
      if (handles.lookup h).isSome then throw (grammarError "" {} "found duplicate %TAG directive" t.start)
      skip
      directives fuel versionSeen (handles ++ [(h, p)])
    | _ =>
      let defaults := [("!", "!"), ("!!", standardPrefix)].filter fun (h, _) => (handles.lookup h).isNone
      modify fun c => { c with handles := handles ++ defaults }

/-- Reads the first document of a stream, if there is one. -/
def document (resolve : String → String) (fuel : Nat) : ComposeM (Option Node) := do
  let _ ← peek
  skip
  let t ← peek
  let root ← match t.kind with
    | .streamEnd => pure none
    | .versionDirective _ _ | .tagDirective _ _ | .documentStart => do
      directives fuel false []
      let t ← peek
      if t.kind != .documentStart then
        throw (grammarError "" {} "did not find expected <document start>" t.start)
      skip
      let t ← peek
      match t.kind with
      | .versionDirective _ _ | .tagDirective _ _ | .documentStart | .documentEnd | .streamEnd =>
        pure (some (emptyScalar "" t.start resolve))
      | _ => some <$> node resolve fuel true false
    | _ => do
      directives fuel false []
      some <$> node resolve fuel true false
  if root.isSome then
    let t ← peek
    if t.kind == .documentEnd then skip
  pure root

end Compose

/-- Reads the first document of a YAML text, or nothing for an empty
stream. Untagged plain scalars get the tag `resolve` gives their text. -/
def readDocument (resolve : String → String) (text : String) : Except YamlError (Option Document) := do
  let s ← Scanner.start text
  let fuel := 4 * (s.input.size + 8)
  let (root, c) ← (Compose.document resolve fuel).run { scanner := s }
  pure (root.map fun r => { root := r, anchored := c.anchored })

end Transclusion.Yaml
