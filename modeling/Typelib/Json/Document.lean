import Typelib.Json.Token

/-!
# Documents

A `Document` is a text in JSON notation as it is written: numerals and texts need not have a value
yet, and an object may name a member twice.  Two readings are built on it.  `Document.value?` reads
untyped data: every numeral and text has to have a value, of two members with one name the later
counts, and members come in ascending order.  `Document.record?` reads a record: it looks at the
members it knows, which must not be repeated, and skips all others whatever they hold.
-/

namespace Typelib

/-- A document as it is written; a text that cannot be decoded has no value. -/
inductive Document where
  | null
  | bool (value : Bool)
  | number (numeral : Numeral)
  | string (value : Option String)
  | array (elements : List Document)
  | object (members : List (Option String × Document))

namespace Document

/-- A container that is still open, with what it holds so far, last first. -/
inductive Frame where
  | array (elements : List Document)
  | object (members : List (Option String × Document)) (key : Option String)

/-- What may come next. -/
inductive Expected where
  | value
  | valueOrClose
  | key
  | keyOrClose
  | colon
  | commaOrClose
  | nothing (result : Document)

/-- The open containers, innermost first, and what may come next. -/
structure Builder where
  stack : List Frame
  expected : Expected

/-- Puts a complete value into the innermost container. -/
def Builder.add (value : Document) : List Frame → Builder
  | [] => ⟨[], .nothing value⟩
  | .array elements :: stack => ⟨.array (value :: elements) :: stack, .commaOrClose⟩
  | .object members key :: stack => ⟨.object ((key, value) :: members) none :: stack, .commaOrClose⟩

/-- Reads the first token of a value. -/
def Builder.beginValue (stack : List Frame) : Token → Option Builder
  | .null => some (add .null stack)
  | .bool b => some (add (.bool b) stack)
  | .number n => some (add (.number n) stack)
  | .string s => some (add (.string s) stack)
  | .arrayOpen => some ⟨.array [] :: stack, .valueOrClose⟩
  | .objectOpen => some ⟨.object [] none :: stack, .keyOrClose⟩
  | _ => none

/-- Closes the innermost container. -/
def Builder.close : List Frame → Token → Option Builder
  | .array elements :: stack, .arrayClose => some (add (.array elements.reverse) stack)
  | .object members _ :: stack, .objectClose => some (add (.object members.reverse) stack)
  | _, _ => none

/-- Reads the key of a member. -/
def Builder.beginMember : List Frame → Token → Option Builder
  | .object members _ :: stack, .string key => some ⟨.object members key :: stack, .colon⟩
  | _, _ => none

/-- Reads what follows a value in a container. -/
def Builder.continue : List Frame → Token → Option Builder
  | .array elements :: stack, .comma => some ⟨.array elements :: stack, .value⟩
  | .object members key :: stack, .comma => some ⟨.object members key :: stack, .key⟩
  | stack, token => close stack token

/-- Reads one token. -/
def Builder.step (b : Builder) (token : Token) : Option Builder :=
  match b.expected with
  | .value => beginValue b.stack token
  | .valueOrClose => (close b.stack token).or (beginValue b.stack token)
  | .key => beginMember b.stack token
  | .keyOrClose => (close b.stack token).or (beginMember b.stack token)
  | .colon =>
    match token with
    | .colon => some ⟨b.stack, .value⟩
    | _ => none
  | .commaOrClose => Builder.continue b.stack token
  | .nothing _ => none

/-- The document a row of tokens spells. -/
def ofTokens? (tokens : List Token) : Option Document :=
  (tokens.foldlM Builder.step ⟨[], .value⟩).bind fun b =>
    match b.expected with
    | .nothing result => some result
    | _ => none

/-- The document a text spells. -/
def parse? (text : String) : Option Document := (Token.scan text.toList).bind ofTokens?

/-! ## Nesting -/

mutual

/-- The greatest number of containers that are open at once. -/
def nesting : Document → Nat
  | .array elements => nestingOfElements elements + 1
  | .object members => nestingOfMembers members + 1
  | _ => 0

def nestingOfElements : List Document → Nat
  | [] => 0
  | d :: rest => max (nesting d) (nestingOfElements rest)

def nestingOfMembers : List (Option String × Document) → Nat
  | [] => 0
  | (_, d) :: rest => max (nesting d) (nestingOfMembers rest)

end

/-- The greatest number of containers that may be open at once in a document that is read. -/
def nestingLimit : Nat := 127

/-! ## Untyped data -/

/-- Puts a member in its place by name, instead of an earlier one of that name. -/
def placeMember (key : String) (value : Json) : List (String × Json) → List (String × Json)
  | [] => [(key, value)]
  | (k, v) :: rest =>
    if k = key then (key, value) :: rest
    else if key < k then (key, value) :: (k, v) :: rest
    else (k, v) :: placeMember key value rest

/-- The members of an object in ascending order of their names; the last of a name counts. -/
def arranged (members : List (String × Json)) : List (String × Json) :=
  members.foldl (fun sorted member => placeMember member.1 member.2 sorted) []

mutual

/-- The data of a document, whatever its nesting. -/
def data? : Document → Option Json
  | .null => some .null
  | .bool b => some (.bool b)
  | .number n => n.value?.map .number
  | .string s => s.map .string
  | .array elements => (dataOfElements? elements).map .array
  | .object members => (dataOfMembers? members).map fun ms => .object (arranged ms)

def dataOfElements? : List Document → Option (List Json)
  | [] => some []
  | d :: rest =>
    match data? d, dataOfElements? rest with
    | some j, some js => some (j :: js)
    | _, _ => none

def dataOfMembers? : List (Option String × Document) → Option (List (String × Json))
  | [] => some []
  | (key, d) :: rest =>
    match key, data? d, dataOfMembers? rest with
    | some k, some j, some ms => some ((k, j) :: ms)
    | _, _, _ => none

end

/-- The data of a document inside `depth` containers. -/
def value? (depth : Nat) (d : Document) : Option Json :=
  if depth + d.nesting ≤ nestingLimit then d.data? else none

/-! ## Records and maps -/

/-- The documents under a name. -/
def membersNamed (name : String) (members : List (Option String × Document)) : List Document :=
  members.filterMap fun member => if member.1 = some name then some member.2 else none

/-- The field of a name, which must not be there twice. -/
def fieldNamed? (members : List (Option String × Document)) (name : String) :
    Option (Option Document) :=
  match membersNamed name members with
  | [] => some none
  | [d] => some (some d)
  | _ => none

/-- The fields of a record, in the order of their names.  As an object a record may lack fields
and hold others besides; as an array it may lack fields at the end only. -/
def record? (names : List String) : Document → Option (List (Option Document))
  | .object members =>
    if members.all fun member => member.1.isSome then names.mapM (fieldNamed? members) else none
  | .array elements =>
    if elements.length ≤ names.length then
      some (elements.map some ++ List.replicate (names.length - elements.length) none)
    else none
  | _ => none

/-- The members of an object, in the order they are written. -/
def members? : Document → Option (List (String × Document))
  | .object members => members.mapM fun member => member.1.map fun key => (key, member.2)
  | _ => none

/-- The data of the fields of a record inside `depth` containers. -/
def fieldValues? (depth : Nat) (fields : List (Option Document)) : Option (List (Option Json)) :=
  fields.mapM fun field =>
    match field with
    | none => some none
    | some d => (d.value? depth).map some

end Document

/-- The untyped data a text spells. -/
def Json.parse? (text : String) : Option Json := (Document.parse? text).bind (Document.value? 0)

end Typelib
