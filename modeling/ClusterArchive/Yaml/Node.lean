import ClusterArchive.Yaml.Tokens

/-!
# Nodes

A document is a tree of scalars, sequences and mappings. An alias stands for the node that carries
the anchor of that name; it is kept as a reference, because it may stand inside the very node it
refers to.

An anchor is numbered by how many different names were in use before it, so that a name used again
takes a number which the next new name takes too; of the nodes with one number the one that begins
last is meant.
-/

namespace ClusterArchive.Yaml

/-- A node; tags are written out in full. -/
inductive Node
  | scalar (tag : Option String) (text : String) (plain : Bool)
  | sequence (tag : Option String) (items : List Node)
  | mapping (tag : Option String) (entries : List (Node × Node))
  | alias (anchor : Nat)
deriving Inhabited

/-- A node with an anchor: the anchor's number and where the node begins. -/
structure Anchored where
  anchor : Nat
  start : Nat
  node : Node

/-- A document: its root, which an empty one lacks, the nodes with anchors, and how many scalars,
aliases and collection ends it is made of. -/
structure Document where
  root : Option Node
  anchored : List Anchored
  size : Nat

/-- What the reader of nodes knows: the tag handles, the numbers of anchor names, the nodes with
anchors so far and how many parts were read. -/
structure Context where
  handles : List (String × String)
  names : List (String × Nat)
  anchored : List Anchored
  size : Nat

namespace Context

/-- What is known at the beginning of a document. -/
def initial (handles : List (String × String)) : Context :=
  ⟨handles ++ [("!", "!"), ("!!", "tag:yaml.org,2002:")], [], [], 0⟩

/-- Counts a part. -/
def count (x : Context) (n : Nat) : Context := { x with size := x.size + n }

/-- Numbers an anchor. -/
def declare (x : Context) (name : String) : Nat × Context :=
  let known := (x.names.find? (·.1 == name)).isSome
  let number := x.names.length
  let names :=
    if known then x.names.map fun n => if n.1 == name then (name, number) else n
    else x.names ++ [(name, number)]
  (number, { x with names })

/-- The tag in full; fails on a handle that is not known. -/
def expand? (x : Context) (t : TagText) : Option String :=
  if t.handle.isEmpty then some t.suffix
  else (x.handles.find? (·.1 == t.handle)).map fun h => h.2 ++ t.suffix

/-- Records a node that has an anchor. -/
def record (x : Context) (anchor : Option Nat) (start : Nat) (node : Node) : Context :=
  match anchor with
  | none => x
  | some number => { x with anchored := ⟨number, start, node⟩ :: x.anchored }

end Context

/-- The node that nothing stands for. -/
def Node.empty : Node := .scalar none "" true

/-- Anchor and tag in front of a node. -/
structure Properties where
  anchor : Option String
  tag : Option TagText

/-- Takes anchor and tag in either order. -/
def takeProperties : List Token → Properties × List Token
  | .anchor a :: .tag t :: rest => (⟨some a, some t⟩, rest)
  | .tag t :: .anchor a :: rest => (⟨some a, some t⟩, rest)
  | .anchor a :: rest => (⟨some a, none⟩, rest)
  | .tag t :: rest => (⟨none, some t⟩, rest)
  | rest => (⟨none, none⟩, rest)

/-- What reading nodes gives: what was read, the context and the remaining tokens. -/
abbrev Reading (α : Type) := Option (α × Context × List Token)

/-- Adds an empty scalar. -/
def emptyScalar (x : Context) (rest : List Token) : Reading Node :=
  some (Node.empty, x.count 1, rest)

/-- Whether the next token is one of those given. -/
def nextIs (stops : List Token) : List Token → Bool
  | [] => false
  | t :: _ => stops.contains t

mutual
/-- Reads a node. In a mapping a sequence may stand without indentation of its own. -/
def readNode : Nat → Bool → Bool → Context → List Token → Reading Node
  | 0, _, _, _, _ => none
  | fuel + 1, block, indentless, x, input =>
    match input with
    | .alias name :: rest =>
      (x.names.find? (·.1 == name)).map fun n => (.alias n.2, x.count 1, rest)
    | _ =>
      let (props, rest) := takeProperties input
      let (anchor, x) := match props.anchor with
        | some name => let r := x.declare name; (some r.1, r.2)
        | none => (none, x)
      let start := x.size
      match (props.tag.map x.expand?).getD (some "") with
      | none => none
      | some fullTag =>
        let tag := if fullTag.isEmpty then none else some fullTag
        let finish := fun (r : Reading Node) =>
          r.map fun (node, x, rest) => (node, x.record anchor start node, rest)
        match rest with
        | .blockEntry :: _ =>
          if indentless then
            finish ((readIndentless fuel (x.count 1) rest).map fun r => (.sequence tag r.1, r.2))
          else if props.anchor.isSome || props.tag.isSome then
            finish (some (.scalar tag "" true, x.count 1, rest))
          else none
        | .scalar text plain :: rest =>
          let tag := if tag == some "!" then none else tag
          finish (some (.scalar tag text plain, x.count 1, rest))
        | .flowSequenceStart :: rest =>
          finish ((readFlowItems fuel true (x.count 1) rest).map fun r => (.sequence tag r.1, r.2))
        | .flowMappingStart :: rest =>
          finish ((readFlowEntries fuel true (x.count 1) rest).map fun r => (.mapping tag r.1, r.2))
        | .blockSequence :: rest =>
          if block then
            finish ((readItems fuel (x.count 1) rest).map fun r => (.sequence tag r.1, r.2))
          else if props.anchor.isSome || props.tag.isSome then
            finish (some (.scalar tag "" true, x.count 1, .blockSequence :: rest))
          else none
        | .blockMapping :: rest =>
          if block then
            finish ((readEntries fuel (x.count 1) rest).map fun r => (.mapping tag r.1, r.2))
          else if props.anchor.isSome || props.tag.isSome then
            finish (some (.scalar tag "" true, x.count 1, .blockMapping :: rest))
          else none
        | rest =>
          if props.anchor.isSome || props.tag.isSome then
            finish (some (.scalar tag "" true, x.count 1, rest))
          else none

/-- Reads a node, or an empty scalar if one of the given tokens is next. -/
def readUnless : Nat → List Token → Bool → Bool → Context → List Token → Reading Node
  | 0, _, _, _, _, _ => none
  | fuel + 1, stops, block, indentless, x, input =>
    if nextIs stops input then emptyScalar x input else readNode fuel block indentless x input

/-- Reads the items of a sequence in block style. -/
def readItems : Nat → Context → List Token → Reading (List Node)
  | 0, _, _ => none
  | fuel + 1, x, input =>
    match input with
    | .blockEntry :: rest =>
      match readUnless fuel [.blockEntry, .blockEnd] true false x rest with
      | some (item, x, rest) => (readItems fuel x rest).map fun r => (item :: r.1, r.2)
      | none => none
    | .blockEnd :: rest => some ([], x.count 1, rest)
    | _ => none

/-- Reads the items of a sequence that is not indented. -/
def readIndentless : Nat → Context → List Token → Reading (List Node)
  | 0, _, _ => none
  | fuel + 1, x, input =>
    match input with
    | .blockEntry :: rest =>
      match readUnless fuel [.blockEntry, .key, .value, .blockEnd] true false x rest with
      | some (item, x, rest) => (readIndentless fuel x rest).map fun r => (item :: r.1, r.2)
      | none => none
    | _ => some ([], x.count 1, input)

/-- Reads the entries of a mapping in block style. -/
def readEntries : Nat → Context → List Token → Reading (List (Node × Node))
  | 0, _, _ => none
  | fuel + 1, x, input =>
    match input with
    | .key :: rest =>
      match readUnless fuel [.key, .value, .blockEnd] true true x rest with
      | none => none
      | some (key, x, rest) =>
        let value := match rest with
          | .value :: rest => readUnless fuel [.key, .value, .blockEnd] true true x rest
          | rest => emptyScalar x rest
        match value with
        | some (value, x, rest) => (readEntries fuel x rest).map fun r => ((key, value) :: r.1, r.2)
        | none => none
    | .blockEnd :: rest => some ([], x.count 1, rest)
    | _ => none

/-- Reads the items of a sequence in brackets. An item may be a single entry of a mapping. -/
def readFlowItems : Nat → Bool → Context → List Token → Reading (List Node)
  | 0, _, _, _ => none
  | fuel + 1, first, x, input =>
    match input with
    | .flowSequenceEnd :: rest => some ([], x.count 1, rest)
    | _ =>
      let separated := if first then some input else
        match input with
        | .flowEntry :: rest => some rest
        | _ => none
      match separated with
      | none => none
      | some (.flowSequenceEnd :: rest) => some ([], x.count 1, rest)
      | some (.key :: rest) =>
        match readPair fuel (x.count 1) rest with
        | some (pair, x, rest) =>
          (readFlowItems fuel false (x.count 1) rest).map fun r =>
            (.mapping none [pair] :: r.1, r.2)
        | none => none
      | some rest =>
        match readNode fuel false false x rest with
        | some (item, x, rest) => (readFlowItems fuel false x rest).map fun r => (item :: r.1, r.2)
        | none => none

/-- Reads a single entry between the commas of a sequence, after the token of its key. A missing key
takes the token behind it with it. -/
def readPair : Nat → Context → List Token → Reading (Node × Node)
  | 0, _, _ => none
  | fuel + 1, x, input =>
    let key :=
      if nextIs [.value, .flowEntry, .flowSequenceEnd] input then emptyScalar x (input.drop 1)
      else readNode fuel false false x input
    match key with
    | none => none
    | some (key, x, rest) =>
      let value := match rest with
        | .value :: rest => readUnless fuel [.flowEntry, .flowSequenceEnd] false false x rest
        | rest => emptyScalar x rest
      value.map fun r => ((key, r.1), r.2)

/-- Reads the entries of a mapping in braces. -/
def readFlowEntries : Nat → Bool → Context → List Token → Reading (List (Node × Node))
  | 0, _, _, _ => none
  | fuel + 1, first, x, input =>
    match input with
    | .flowMappingEnd :: rest => some ([], x.count 1, rest)
    | _ =>
      let separated := if first then some input else
        match input with
        | .flowEntry :: rest => some rest
        | _ => none
      match separated with
      | none => none
      | some (.flowMappingEnd :: rest) => some ([], x.count 1, rest)
      | some (.key :: rest) =>
        match readUnless fuel [.value, .flowEntry, .flowMappingEnd] false false x rest with
        | none => none
        | some (key, x, rest) =>
          let value := match rest with
            | .value :: rest => readUnless fuel [.flowEntry, .flowMappingEnd] false false x rest
            | rest => emptyScalar x rest
          match value with
          | some (value, x, rest) =>
            (readFlowEntries fuel false x rest).map fun r => ((key, value) :: r.1, r.2)
          | none => none
      | some rest =>
        match readNode fuel false false x rest with
        | none => none
        | some (key, x, rest) =>
          (readFlowEntries fuel false (x.count 1) rest).map fun r => ((key, Node.empty) :: r.1, r.2)
end

/-- The directives in front of a document: whether a version was given, and the tag handles. A
version other than 1.1 and 1.2 is refused, and so is a directive given twice. -/
def takeDirectives (version : Bool) (handles : List (String × String)) :
    List Token → Option (List (String × String) × List Token)
  | .versionDirective major minor :: rest =>
    if version || major != 1 || !(minor == 1 || minor == 2) then none
    else takeDirectives true handles rest
  | .tagDirective handle expansion :: rest =>
    if handles.any (·.1 == handle) then none
    else takeDirectives version (handles ++ [(handle, expansion)]) rest
  | rest => some (handles, rest)

/-- Reads the root of a document behind its marker, which may be missing. -/
def readRoot (x : Context) (input : List Token) : Reading Node :=
  match input with
  | [] | .versionDirective .. :: _ | .tagDirective .. :: _ | .documentStart :: _
  | .documentEnd :: _ =>
    emptyScalar x input
  | _ => readNode (4 * input.length + 4) true false x input

/-- Reads the first document; gives the tokens behind it. -/
def readDocument (input : List Token) : Option (Document × List Token) :=
  let marked := match input with
    | .versionDirective .. :: _ | .tagDirective .. :: _ | .documentStart :: _ => true
    | _ => false
  let found :=
    if marked then
      match takeDirectives false [] input with
      | some (handles, .documentStart :: rest) => readRoot (.initial handles) rest
      | _ => none
    else readNode (4 * input.length + 4) true false (.initial []) input
  match found with
  | some (root, x, .documentEnd :: rest) => some (⟨some root, x.anchored, x.size⟩, rest)
  | some (root, x, rest) => some (⟨some root, x.anchored, x.size⟩, rest)
  | none => none

/-- The one document of a text; a text without any is an empty document, and a text with several is
refused. -/
def Document.read? (text : List Char) : Option Document :=
  match tokens? text with
  | none => none
  | some [] => some ⟨none, [], 1⟩
  | some input =>
    match readDocument input with
    | some (d, rest) => if rest.all (· == .documentEnd) then some d else none
    | none => none

/-- The node that an alias stands for. -/
def Document.anchoredNode? (d : Document) (anchor : Nat) : Option Node :=
  go none (d.anchored.filter (·.anchor == anchor))
where
  go (latest : Option Anchored) : List Anchored → Option Node
    | [] => latest.map (·.node)
    | a :: rest =>
      if latest.all (·.start < a.start) then go (some a) rest else go latest rest

end ClusterArchive.Yaml
