import ForwardTaint.Yaml.Token
import ForwardTaint.Yaml.Value

/-!
The tree of a YAML document, from its tokens.  A text must hold a single document.  An alias stands
for the value that was named before it.
-/

namespace ForwardTaint.Yaml

/-- The tokens that are left, the named values, latest first, and the declared handles of tags with
what they stand for. -/
structure Reader where
  tokens : List Token
  anchors : List (String × Yaml)
  handles : List (String × String)

/-- A step of reading, which takes tokens or fails. -/
abbrev Read (Value : Type) : Type := StateT Reader Option Value

namespace Read

/-- The next token. -/
def peek : Read (Option Token) := do return (← get).tokens.head?

/-- Passes over the next token. -/
def skip : Read Unit := modify fun reader => { reader with tokens := reader.tokens.tail }

/-- Takes a token that must come next. -/
def expect (token : Token) : Read Unit := do
  if (← peek) = some token then skip else failure

/-- Takes a token if it comes next. -/
def accept (token : Token) : Read Bool := do
  if (← peek) = some token then
    skip
    return true
  else return false

/-- Whether the next token is one of a list. -/
def isNext (tokens : List Token) : Read Bool := do
  return (← peek).any tokens.contains

/-- Takes an anchor if it comes next. -/
def anchor? : Read (Option String) := do
  match ← peek with
  | some (.anchor name) =>
      skip
      return some name
  | _ => return none

/-- Takes a tag if it comes next, the handle of which must be declared; answers its full name. -/
def tag? : Read (Option String) := do
  match ← peek with
  | some (.tag handle name) =>
      skip
      if handle.isEmpty then return some name
      match (← get).handles.lookup handle with
      | some start => return some (start ++ name)
      | none => failure
  | _ => return none

/-- The properties of a value: the name that it gets, and its tag. -/
structure Properties where
  anchor : Option String
  tag : Option String

/-- Takes the anchor and the tag of a value, in either order. -/
def properties : Read Properties := do
  match ← anchor? with
  | some name => return ⟨some name, ← tag?⟩
  | none =>
      match ← tag? with
      | some tag => return ⟨← anchor?, some tag⟩
      | none => return ⟨none, none⟩

/-- Whether a value has properties, so that it may be empty. -/
def Properties.isGiven (properties : Properties) : Bool :=
  properties.anchor.isSome || properties.tag.isSome

/-- The form of a scalar without quotes behind a tag. -/
def unquotedForm : (tag : Option String) → ScalarForm
  | none => .plain
  | some tag => .tagged (tag == "tag:yaml.org,2002:null")

/-- The value that was named. -/
def named (name : String) : Read Yaml := do
  match (← get).anchors.lookup name with
  | some value => return value
  | none => failure

/-- Names a value. -/
def name (anchor : Option String) (value : Yaml) : Read Unit :=
  match anchor with
  | some name => modify fun reader => { reader with anchors := (name, value) :: reader.anchors }
  | none => return ()

mutual

/-- Reads a value; blocks are only allowed outside flow collections, and a sequence without
indentation only in a block mapping. -/
def value (inBlock bareItems : Bool) : Nat → Read Yaml
  | 0 => failure
  | rounds + 1 => do
      match ← peek with
      | some (.aliasTo name) =>
          skip
          named name
      | _ =>
          let properties ← properties
          let value ← content inBlock bareItems properties rounds
          name properties.anchor value
          return value

/-- Reads a value behind its properties, with which it may be left out. -/
def content (inBlock bareItems : Bool) (properties : Properties) : Nat → Read Yaml
  | 0 => failure
  | rounds + 1 => do
      match ← peek with
      | some (.scalar unquoted text) =>
          skip
          let tag := properties.tag.filter (· != "!")
          return .scalar (if unquoted then unquotedForm tag else .quoted) text
      | some .flowSequenceStart =>
          skip
          return .sequence (← flowItems true rounds)
      | some .flowMappingStart =>
          skip
          return .mapping (← flowEntries true rounds)
      | token =>
          if bareItems && token = some .blockEntry then
            return .sequence (← items true rounds)
          else if inBlock && token = some .blockSequenceStart then
            skip
            return .sequence (← items false rounds)
          else if inBlock && token = some .blockMappingStart then
            skip
            return .mapping (← entries rounds)
          else if properties.isGiven then return .scalar (unquotedForm properties.tag) ""
          else failure

/-- Reads a value unless one of the tokens comes next that can only follow it. -/
def valueUnless (inBlock bareItems : Bool) (ends : List Token) : Nat → Read Yaml
  | 0 => failure
  | rounds + 1 => do
      if ← isNext ends then return .empty else value inBlock bareItems rounds

/-- Reads the items of a block sequence; one without indentation has no mark at its end. -/
def items (bare : Bool) : Nat → Read (List Yaml)
  | 0 => failure
  | rounds + 1 => do
      if ← accept .blockEntry then
        let ends :=
          if bare then [.blockEntry, .key, .value, .blockEnd] else [.blockEntry, .blockEnd]
        let item ← valueUnless true false ends rounds
        return item :: (← items bare rounds)
      else
        if !bare then expect .blockEnd
        return []

/-- Reads the entries of a block mapping. -/
def entries : Nat → Read (List (Yaml × Yaml))
  | 0 => failure
  | rounds + 1 => do
      if ← accept .key then
        let ends := [.key, .value, .blockEnd]
        let key ← valueUnless true true ends rounds
        let value ← if ← accept .value then valueUnless true true ends rounds else pure .empty
        return (key, value) :: (← entries rounds)
      else
        expect .blockEnd
        return []

/-- Reads the items of a flow sequence; a lone entry of a mapping may stand for that mapping. -/
def flowItems (first : Bool) : Nat → Read (List Yaml)
  | 0 => failure
  | rounds + 1 => do
      if ← accept .flowSequenceEnd then return []
      if !first then expect .flowEntry
      if ← accept .flowSequenceEnd then return []
      let item ←
        if ← accept .key then
          pure (.mapping [← flowEntry .flowSequenceEnd rounds])
        else value false false rounds
      return item :: (← flowItems false rounds)

/-- Reads the entries of a flow mapping; one without a colon has no value. -/
def flowEntries (first : Bool) : Nat → Read (List (Yaml × Yaml))
  | 0 => failure
  | rounds + 1 => do
      if ← accept .flowMappingEnd then return []
      if !first then expect .flowEntry
      if ← accept .flowMappingEnd then return []
      let entry ←
        if ← accept .key then flowEntry .flowMappingEnd rounds
        else
          let key ← value false false rounds
          pure (key, .empty)
      return entry :: (← flowEntries false rounds)

/-- Reads an entry in a flow collection. -/
def flowEntry (close : Token) : Nat → Read (Yaml × Yaml)
  | 0 => failure
  | rounds + 1 => do
      let key ← valueUnless false false [.value, .flowEntry, close] rounds
      let value ←
        if ← accept .value then valueUnless false false [.flowEntry, close] rounds
        else pure .empty
      return (key, value)

end

/-- Takes directives: one version at most, and handles that differ. -/
def directives : List Token → (hasVersion : Bool) → (handles : List (String × String)) →
    Option (List Token × List (String × String))
  | .versionDirective major minor :: rest, hasVersion, handles =>
      if hasVersion || major != 1 || (minor != 1 && minor != 2) then none
      else directives rest true handles
  | .tagDirective handle start :: rest, hasVersion, handles =>
      if (handles.lookup handle).isSome then none
      else directives rest hasVersion ((handle, start) :: handles)
  | rest, _, handles => some (rest, handles)

end Read

/-- The tree of a document of tokens.  A value spends at most three rounds for each of its
tokens. -/
def ofTokens? (tokens : List Token) : Option Yaml := do
  let (rest, handles) ← Read.directives tokens false []
  let isExplicit := rest.head? = some .documentStart
  if !isExplicit && rest.length < tokens.length then none
  let standardHandles := [("!", "!"), ("!!", "tag:yaml.org,2002:")]
  let reader : Reader :=
    ⟨if isExplicit then rest.tail else rest, [], handles ++ standardHandles⟩
  let isEmpty := match reader.tokens with
    | [] => true
    | .documentEnd :: _ => isExplicit
    | _ => false
  let rounds := 4 * tokens.length + 4
  let (tree, reader) ← if isEmpty then some (Yaml.empty, reader)
    else (Read.value true false rounds).run reader
  if reader.tokens.all (· == .documentEnd) then return tree else none

/-- The tree of a text that holds a single document. -/
def parse? (text : String) : Option Yaml := (tokens? text).bind ofTokens?

end ForwardTaint.Yaml
