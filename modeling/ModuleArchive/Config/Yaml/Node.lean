import ModuleArchive.Config.Yaml.Scanner

/-!
# Nodes of a YAML text

The tokens of a text are put together to a tree of texts, lists and mappings. Aliases stand
for the node that was given their name before.
-/
namespace ModuleArchive.Config.Yaml

/-- A node of a document. -/
inductive Node where
  | scalar (text : List Char) (plain : Bool) (tag : Option (List Char))
  | list (items : List Node) (tag : Option (List Char))
  | mapping (pairs : List (Node × Node)) (tag : Option (List Char))

/-- The node that stands where nothing is written. -/
def Node.nothing : Node := .scalar [] true none

/-- What is left to read of a document, and the names that were given so far. -/
structure Reading where
  tokens : List Token
  anchors : List (List Char × Node) := []
  /-- What the handles of tags stand for. -/
  handles : List (List Char × List Char)

namespace Reading

def next (r : Reading) : Token := r.tokens.head?.getD .streamEnd

/-- The reading behind the next token. -/
def drop (r : Reading) : Reading := { r with tokens := r.tokens.tail }

def tag? (r : Reading) (handle suffix : List Char) : Option (List Char) :=
  if handle.isEmpty then some suffix else (r.handles.lookup handle).map (· ++ suffix)

/-- Read the anchor and the tag of a node, in any order. -/
def readProperties? (r : Reading) :
    Option (Option (List Char) × Option (List Char) × Reading) :=
  match r.tokens with
  | .anchor name :: .tag handle suffix :: rest | .tag handle suffix :: .anchor name :: rest =>
    (r.tag? handle suffix).map fun tag => (some name, some tag, { r with tokens := rest })
  | .anchor name :: rest => some (some name, none, { r with tokens := rest })
  | .tag handle suffix :: rest =>
    (r.tag? handle suffix).map fun tag => (none, some tag, { r with tokens := rest })
  | _ => some (none, none, r)

mutual

/-- Read a node; `block` tells whether it may be a block collection, and `flat` whether it may
be a list whose dashes are not indented. -/
def readNode? : Nat → Bool → Bool → Reading → Option (Node × Reading)
  | 0, _, _, _ => none
  | fuel + 1, block, flat, r =>
    match r.next with
    | .alias name => (r.anchors.lookup name).map (·, r.drop)
    | _ =>
      match readProperties? r with
      | none => none
      | some (anchor, tag, r) =>
        let read : Option (Node × Reading) :=
          match r.next, block, flat with
          | .blockEntry, _, true =>
            (readFlatItems? fuel [] r).map fun (items, r) => (.list items tag, r)
          | .scalar text plain, _, _ => some (.scalar text plain tag, r.drop)
          | .flowSequenceStart, _, _ =>
            (readFlowItems? fuel [] r.drop).map fun (items, r) => (.list items tag, r)
          | .flowMappingStart, _, _ =>
            (readFlowPairs? fuel [] r.drop).map fun (pairs, r) => (.mapping pairs tag, r)
          | .blockSequenceStart, true, _ =>
            (readItems? fuel [] r.drop).map fun (items, r) => (.list items tag, r)
          | .blockMappingStart, true, _ =>
            (readPairs? fuel [] r.drop).map fun (pairs, r) => (.mapping pairs tag, r)
          | _, _, _ =>
            if anchor.isSome || tag.isSome then some (.scalar [] true tag, r) else none
        match read, anchor with
        | some (node, r), some name =>
          some (node, { r with anchors := (name, node) :: r.anchors })
        | read, _ => read

/-- Read a node, unless one of some tokens shows that nothing is written. -/
def readOr? : Nat → List Token → Bool → Bool → Reading → Option (Node × Reading)
  | 0, _, _, _, _ => none
  | fuel + 1, ends, block, flat, r =>
    if r.next ∈ ends then some (.nothing, r) else readNode? fuel block flat r

def readItems? : Nat → List Node → Reading → Option (List Node × Reading)
  | 0, _, _ => none
  | fuel + 1, done, r =>
    match r.next with
    | .blockEntry =>
      match readOr? fuel [.blockEntry, .blockEnd] true false r.drop with
      | some (item, r) => readItems? fuel (item :: done) r
      | none => none
    | .blockEnd => some (done.reverse, r.drop)
    | _ => none

/-- Read the items of a block list whose dashes are not indented. -/
def readFlatItems? : Nat → List Node → Reading → Option (List Node × Reading)
  | 0, _, _ => none
  | fuel + 1, done, r =>
    match r.next with
    | .blockEntry =>
      match readOr? fuel [.blockEntry, .key, .value, .blockEnd] true false r.drop with
      | some (item, r) => readFlatItems? fuel (item :: done) r
      | none => none
    | _ => some (done.reverse, r)

/-- Read the pairs of a block mapping. -/
def readPairs? : Nat → List (Node × Node) → Reading → Option (List (Node × Node) × Reading)
  | 0, _, _ => none
  | fuel + 1, done, r =>
    match r.next with
    | .key =>
      match readOr? fuel [.key, .value, .blockEnd] true true r.drop with
      | none => none
      | some (key, r) =>
        match r.next with
        | .value =>
          match readOr? fuel [.key, .value, .blockEnd] true true r.drop with
          | some (value, r) => readPairs? fuel ((key, value) :: done) r
          | none => none
        | _ => readPairs? fuel ((key, .nothing) :: done) r
    | .blockEnd => some (done.reverse, r.drop)
    | _ => none

/-- Read the value of a pair between brackets, if there is one. -/
def readFlowValue? : Nat → Token → Reading → Option (Node × Reading)
  | 0, _, _ => none
  | fuel + 1, stop, r =>
    match r.next with
    | .value => readOr? fuel [.flowEntry, stop] false false r.drop
    | _ => some (.nothing, r)

/-- Read the items of a list in brackets. A pair may stand for a mapping. -/
def readFlowItems? : Nat → List Node → Reading → Option (List Node × Reading)
  | 0, _, _ => none
  | fuel + 1, done, r =>
    let item : Option (Node × Reading) :=
      match r.next with
      | .key =>
        match readOr? fuel [.value, .flowEntry, .flowSequenceEnd] false false r.drop with
        | some (key, r) =>
          (readFlowValue? fuel .flowSequenceEnd r).map fun (value, r) =>
            (.mapping [(key, value)] none, r)
        | none => none
      | _ => readNode? fuel false false r
    if r.next = .flowSequenceEnd then some (done.reverse, r.drop)
    else
      match item with
      | none => none
      | some (item, r) =>
        match r.next with
        | .flowEntry => readFlowItems? fuel (item :: done) r.drop
        | .flowSequenceEnd => some ((item :: done).reverse, r.drop)
        | _ => none

/-- Read the pairs of a mapping in braces. -/
def readFlowPairs? : Nat → List (Node × Node) → Reading → Option (List (Node × Node) × Reading)
  | 0, _, _ => none
  | fuel + 1, done, r =>
    let pair : Option ((Node × Node) × Reading) :=
      match r.next with
      | .key =>
        match readOr? fuel [.value, .flowEntry, .flowMappingEnd] false false r.drop with
        | some (key, r) =>
          (readFlowValue? fuel .flowMappingEnd r).map fun (value, r) => ((key, value), r)
        | none => none
      | _ => (readNode? fuel false false r).map fun (key, r) => ((key, .nothing), r)
    if r.next = .flowMappingEnd then some (done.reverse, r.drop)
    else
      match pair with
      | none => none
      | some (pair, r) =>
        match r.next with
        | .flowEntry => readFlowPairs? fuel (pair :: done) r.drop
        | .flowMappingEnd => some ((pair :: done).reverse, r.drop)
        | _ => none

end

def isDirective : Token → Bool
  | .version | .tagHandle _ _ => true
  | _ => false

/-- What the handles of tags stand for where nothing is said about them. -/
def defaultHandles : List (List Char × List Char) :=
  [(['!'], ['!']), (['!', '!'], "tag:yaml.org,2002:".toList)]

/-- What the handles of tags stand for after some directives. No directive may be repeated. -/
def handlesOf? (directives : List Token) : Option (List (List Char × List Char)) :=
  let defined := directives.filterMap fun
    | .tagHandle handle start => some (handle, start)
    | _ => none
  if 1 < directives.count .version || !(defined.map (·.1)).Nodup then none
  else some (defined ++ defaultHandles)

def readContent? (r : Reading) : Option (Node × Reading) :=
  match r.next with
  | .version | .tagHandle _ _ | .documentStart | .documentEnd | .streamEnd => some (.nothing, r)
  | _ => readNode? (4 * r.tokens.length + 4) true false r

/-- Read the only document of a text; there may be none. A second document is refused. -/
def readDocument? (tokens : List Token) : Option (Option Node) :=
  let directives := tokens.takeWhile isDirective
  match handlesOf? directives, tokens.drop directives.length with
  | none, _ => none
  | some handles, .documentStart :: tokens =>
    (readContent? { tokens, handles }).bind fun (node, r) => finish node r
  | some handles, tokens =>
    if !directives.isEmpty then none
    else if tokens = [.streamEnd] then some none
    else
      (readNode? (4 * tokens.length + 4) true false { tokens, handles }).bind fun (node, r) =>
        finish node r
where
  /-- The document, if the text ends behind it. -/
  finish (node : Node) (r : Reading) : Option (Option Node) :=
    if r.tokens.dropWhile (· == .documentEnd) = [.streamEnd] then some (some node) else none

end Reading

end ModuleArchive.Config.Yaml
