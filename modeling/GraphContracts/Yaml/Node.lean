import GraphContracts.Yaml.Scanner

namespace GraphContracts.Yaml

/-- The tag of a node. Without one, a plain scalar may be of any kind and a quoted one is a text. -/
inductive Tag where
  | plain
  | quoted
  | named (name : String)
  deriving DecidableEq, Repr

inductive Node where
  | scalar (tag : Tag) (text : String)
  | sequence (tag : Tag) (items : List Node)
  | mapping (tag : Tag) (entries : List (Node × Node))
  deriving Repr

def Node.empty : Node :=
  .scalar .plain ""

instance : Inhabited Node := ⟨.empty⟩

structure Names where
  handles : List (String × String)
  anchors : List (String × Node)

def defaultHandles : List (String × String) :=
  [("!", "!"), ("!!", "tag:yaml.org,2002:")]

structure Properties where
  anchor : Option String
  tag : Option (Option String × String)

def readProperties : List Token → Properties × List Token
  | .anchor a :: .tag h s :: ts => (⟨some a, some (h, s)⟩, ts)
  | .tag h s :: .anchor a :: ts => (⟨some a, some (h, s)⟩, ts)
  | .anchor a :: ts => (⟨some a, none⟩, ts)
  | .tag h s :: ts => (⟨none, some (h, s)⟩, ts)
  | ts => (⟨none, none⟩, ts)

def resolveTag (names : Names) : Option String × String → Result String
  | (none, suffix) => .ok suffix
  | (some handle, suffix) =>
    match names.handles.lookup handle with
    | some start => .ok (start ++ suffix)
    | none => malformed

def collectionTag : Option String → Tag
  | none => .plain
  | some t => if t = "!" then .plain else .named t

/-- The tag of a scalar. The lone exclamation mark has any scalar looked at as if it were plain. -/
def scalarTag (isPlain : Bool) : Option String → Tag
  | none => if isPlain then .plain else .quoted
  | some t => if t = "!" then .plain else .named t

def Names.bind (names : Names) (anchor : Option String) (n : Node) : Result Names :=
  match anchor with
  | none => .ok names
  | some a =>
    if (names.anchors.lookup a).isSome then malformed
    else .ok { names with anchors := (a, n) :: names.anchors }

inductive Place where
  | blockSequence
  | indentless
  | blockMapping
  | flowSequence
  | flowMappingKey
  | flowMappingValue
  | document
  deriving DecidableEq, Repr

def Place.endsAt (p : Place) (t : Token) : Bool :=
  match p, t with
  | .blockSequence, .blockEntry | .blockSequence, .blockEnd => true
  | .indentless, .blockEntry | .indentless, .key | .indentless, .value
  | .indentless, .blockEnd => true
  | .blockMapping, .key | .blockMapping, .value | .blockMapping, .blockEnd => true
  | .flowSequence, .value | .flowSequence, .flowEntry | .flowSequence, .flowSequenceEnd => true
  | .flowMappingKey, .value | .flowMappingKey, .flowEntry
  | .flowMappingKey, .flowMappingEnd => true
  | .flowMappingValue, .flowEntry | .flowMappingValue, .flowMappingEnd => true
  | .document, .directive _ | .document, .documentStart | .document, .documentEnd
  | .document, .streamEnd => true
  | _, _ => false

def Place.isBlock : Place → Bool
  | .blockSequence | .indentless | .blockMapping | .document => true
  | _ => false

mutual

def parseNode : (fuel : Nat) → (place : Place) → Names → List Token →
    Result (Node × Names × List Token)
  | 0, _, _, _ => malformed
  | _ + 1, _, names, .alias a :: ts =>
    match names.anchors.lookup a with
    | some n => .ok (n, names, ts)
    | none => malformed
  | fuel + 1, place, names, ts => do
    let (properties, ts) := readProperties ts
    let tag ← properties.tag.mapM (resolveTag names)
    let (node, names, ts) ← parseContent fuel place tag
      (properties.anchor.isSome || tag.isSome) names ts
    let names ← names.bind properties.anchor node
    pure (node, names, ts)

def parseContent : (fuel : Nat) → (place : Place) → (tag : Option String) →
    (mayBeEmpty : Bool) → Names → List Token → Result (Node × Names × List Token)
  | 0, _, _, _, _, _ => malformed
  | fuel + 1, place, tag, mayBeEmpty, names, ts =>
    match ts with
    | .scalar text isPlain :: ts => .ok (.scalar (scalarTag isPlain tag) text, names, ts)
    | .flowSequenceStart :: ts => do
      let (items, names, ts) ← parseFlowItems fuel true names ts
      pure (.sequence (collectionTag tag) items, names, ts)
    | .flowMappingStart :: ts => do
      let (entries, names, ts) ← parseFlowEntries fuel true names ts
      pure (.mapping (collectionTag tag) entries, names, ts)
    | t :: more =>
      if t = .blockEntry && place = .blockMapping then do
        let (items, names, ts) ← parseIndentless fuel names ts
        pure (.sequence (collectionTag tag) items, names, ts)
      else if t = .blockSequenceStart && place.isBlock then do
        let (items, names, ts) ← parseBlockItems fuel names more
        pure (.sequence (collectionTag tag) items, names, ts)
      else if t = .blockMappingStart && place.isBlock then do
        let (entries, names, ts) ← parseBlockEntries fuel names more
        pure (.mapping (collectionTag tag) entries, names, ts)
      else if mayBeEmpty then pure (.scalar (scalarTag true tag) "", names, ts)
      else malformed
    | [] => malformed

def parseOptional : (fuel : Nat) → (place : Place) → Names → List Token →
    Result (Node × Names × List Token)
  | 0, _, _, _ => malformed
  | fuel + 1, place, names, ts =>
    if ts.head?.any place.endsAt then .ok (.empty, names, ts) else parseNode fuel place names ts

def parseBlockItems : (fuel : Nat) → Names → List Token → Result (List Node × Names × List Token)
  | 0, _, _ => malformed
  | _ + 1, names, .blockEnd :: ts => .ok ([], names, ts)
  | fuel + 1, names, .blockEntry :: ts => do
    let (item, names, ts) ← parseOptional fuel .blockSequence names ts
    let (items, names, ts) ← parseBlockItems fuel names ts
    pure (item :: items, names, ts)
  | _ + 1, _, _ => malformed

/-- The entries of a sequence that is indented no further than the key it belongs to. -/
def parseIndentless : (fuel : Nat) → Names → List Token → Result (List Node × Names × List Token)
  | 0, _, _ => malformed
  | fuel + 1, names, .blockEntry :: ts => do
    let (item, names, ts) ← parseOptional fuel .indentless names ts
    let (items, names, ts) ← parseIndentless fuel names ts
    pure (item :: items, names, ts)
  | _ + 1, names, ts => .ok ([], names, ts)

def parseBlockEntries : (fuel : Nat) → Names → List Token →
    Result (List (Node × Node) × Names × List Token)
  | 0, _, _ => malformed
  | _ + 1, names, .blockEnd :: ts => .ok ([], names, ts)
  | fuel + 1, names, .key :: ts => do
    let (key, names, ts) ← parseOptional fuel .blockMapping names ts
    let (value, names, ts) ← parseValue fuel .blockMapping names ts
    let (entries, names, ts) ← parseBlockEntries fuel names ts
    pure ((key, value) :: entries, names, ts)
  | _ + 1, _, _ => malformed

def parseValue : (fuel : Nat) → (place : Place) → Names → List Token →
    Result (Node × Names × List Token)
  | 0, _, _, _ => malformed
  | fuel + 1, place, names, .value :: ts => parseOptional fuel place names ts
  | _ + 1, _, names, ts => .ok (.empty, names, ts)

def parseFlowItems : (fuel : Nat) → (isFirst : Bool) → Names → List Token →
    Result (List Node × Names × List Token)
  | 0, _, _, _ => malformed
  | _ + 1, _, names, .flowSequenceEnd :: ts => .ok ([], names, ts)
  | fuel + 1, false, names, .flowEntry :: ts => parseFlowItems fuel true names ts
  | _ + 1, false, _, _ => malformed
  | fuel + 1, true, names, .key :: ts => do
    let (key, names, ts) ← parseOptional fuel .flowSequence names ts
    let (value, names, ts) ← parseValue fuel .flowSequence names ts
    let (items, names, ts) ← parseFlowItems fuel false names ts
    pure (.mapping .plain [(key, value)] :: items, names, ts)
  | fuel + 1, true, names, ts => do
    let (item, names, ts) ← parseNode fuel .flowSequence names ts
    let (items, names, ts) ← parseFlowItems fuel false names ts
    pure (item :: items, names, ts)

/-- The entries of a flow mapping. A key without a colon has the empty value. -/
def parseFlowEntries : (fuel : Nat) → (isFirst : Bool) → Names → List Token →
    Result (List (Node × Node) × Names × List Token)
  | 0, _, _, _ => malformed
  | _ + 1, _, names, .flowMappingEnd :: ts => .ok ([], names, ts)
  | fuel + 1, false, names, .flowEntry :: ts => parseFlowEntries fuel true names ts
  | _ + 1, false, _, _ => malformed
  | fuel + 1, true, names, .key :: ts => do
    let (key, names, ts) ← parseOptional fuel .flowMappingKey names ts
    let (value, names, ts) ← parseValue fuel .flowMappingValue names ts
    let (entries, names, ts) ← parseFlowEntries fuel false names ts
    pure ((key, value) :: entries, names, ts)
  | fuel + 1, true, names, ts => do
    let (key, names, ts) ← parseNode fuel .flowMappingKey names ts
    let (entries, names, ts) ← parseFlowEntries fuel false names ts
    pure ((key, .empty) :: entries, names, ts)

end

/-- The directives before a document: at most one version, which has to be of the first major
number, and no handle twice. -/
def readDirectives (hasVersion : Bool) (handles : List (String × String)) :
    List Token → Result (List (String × String) × List Token)
  | .directive (.version major) :: ts =>
    if hasVersion || major ≠ 1 then malformed else readDirectives true handles ts
  | .directive (.tag handle start) :: ts =>
    if (handles.lookup handle).isSome then malformed
    else readDirectives hasVersion ((handle, start) :: handles) ts
  | .directive .other :: ts => readDirectives hasVersion handles ts
  | ts => .ok (handles, ts)

def openDocument (ts : List Token) : Result (Names × List Token) := do
  let (handles, ts) ← readDirectives false [] ts
  match ts with
  | .documentStart :: ts => pure (⟨handles ++ defaultHandles, []⟩, ts)
  | _ => malformed

def parseDocument (ts : List Token) : Result (Option Node) := do
  let fuel := 4 * ts.length + 8
  match ts with
  | [.streamEnd] => pure none
  | t :: _ =>
    let (node, _, ts) ←
      match t with
      | .directive _ | .documentStart => do
        let (names, ts) ← openDocument ts
        parseOptional fuel .document names ts
      | _ => parseNode fuel .document ⟨defaultHandles, []⟩ ts
    match ts.dropWhile (· = .documentEnd) with
    | [.streamEnd] => pure (some node)
    | _ => malformed
  | [] => malformed

end GraphContracts.Yaml
