import ServiceTypes.Proofs.Json.Reader
import ServiceTypes.Source

namespace ServiceTypes

namespace Json

def string? : Json → Option String
  | string text => some text
  | _ => none

def bool? : Json → Option Bool
  | bool value => some value
  | _ => none

def list? {α : Type} (item : Json → Option α) : Json → Option (List α)
  | array items => items.mapM item
  | _ => none

-- Members are found by their key, wherever they stand, and others are passed over.
def member? {α : Type} (key : String) (decode : Json → Option α) : Json → Option α
  | object members => (members.lookup key).bind decode
  | _ => none

def names? : Json → Option (List String) := list? string?

@[simp] theorem string?_string (text : String) : string? (string text) = some text := rfl

@[simp] theorem bool?_bool (value : Bool) : bool? (bool value) = some value := rfl

@[simp] theorem member?_cons {α : Type} (wanted key : String) (value : Json)
    (members : List (String × Json)) (decode : Json → Option α) :
    member? wanted decode (object ((key, value) :: members)) =
      if wanted = key then decode value else member? wanted decode (object members) := by
  by_cases here : wanted = key
  · rw [if_pos here, here, member?, List.lookup_cons_self, Option.bind_some]
  · rw [if_neg here, member?, List.lookup_cons, beq_eq_false_iff_ne.mpr here]
    rfl

theorem list?_map {α : Type} {encode : α → Json} {decode : Json → Option α}
    (faithful : ∀ x, decode (encode x) = some x) (items : List α) :
    list? decode (array (items.map encode)) = some items := by
  induction items with
  | nil => rfl
  | cons first rest ih =>
    rw [list?] at ih ⊢
    simp [faithful, ih]

@[simp] theorem names?_names (items : List String) : names? (names items) = some items :=
  list?_map string?_string items

end Json

def Primitive.ofKeyword? (word : String) : Option Primitive :=
  if word = "string" then some string
  else if word = "int" then some int
  else if word = "float" then some float
  else if word = "boolean" then some boolean
  else none

def Descriptor.ofJson? : Json → Option Descriptor
  | .object [("primitive", .string word)] => (Primitive.ofKeyword? word).map primitive
  | .object [("named", .string name)] => some (named name)
  | .object [("array", element)] => (ofJson? element).map array
  | .object [("optional", inner)] => (ofJson? inner).map optional
  | .object [("stream", element)] => (ofJson? element).map stream
  | _ => none

def Alternatives.ofJson? : Json → Option Alternatives
  | .object [("member", .string name)] => some (member name)
  | .object [("either", .array [left, right])] => do
    return either (← ofJson? left) (← ofJson? right)
  | _ => none

def TypedName.ofJson? (json : Json) : Option TypedName := do
  return {
    name := ← json.member? "name" Json.string?
    type := ← json.member? "ty" Descriptor.ofJson? }

def MethodKind.ofWord? (word : String) : Option MethodKind :=
  if word = "get" then some get
  else if word = "remote" then some remote
  else if word = "subscribe" then some subscribe
  else none

def Method.ofJson? (json : Json) : Option Method := do
  return {
    kind := ← MethodKind.ofWord? (← json.member? "kind" Json.string?)
    name := ← json.member? "name" Json.string?
    params := ← json.member? "params" (Json.list? TypedName.ofJson?)
    returns := ← json.member? "returns" Descriptor.ofJson? }

def Json.methods? : Json → Option (List Method) := Json.list? Method.ofJson?

def Record.ofJson? (json : Json) : Option Record := do
  return {
    name := ← json.member? "name" Json.string?
    closed := ← json.member? "closed" Json.bool?
    fields := ← json.member? "fields" (Json.list? TypedName.ofJson?) }

def ServiceClass.ofJson? (json : Json) : Option ServiceClass := do
  return {
    name := ← json.member? "name" Json.string?
    distinct := ← json.member? "distinct" Json.bool?
    includes := ← json.member? "includes" Json.names?
    methods := ← json.member? "methods" Json.methods? }

def ServiceContract.ofJson? (json : Json) : Option ServiceContract := do
  return {
    name := ← json.member? "name" Json.string?
    includes := ← json.member? "includes" Json.names?
    methods := ← json.member? "methods" Json.methods? }

def EnumDefinition.ofJson? (json : Json) : Option EnumDefinition := do
  return {
    name := ← json.member? "name" Json.string?
    members := ← json.member? "members" Json.names? }

def UnionDefinition.ofJson? (json : Json) : Option UnionDefinition := do
  return {
    name := ← json.member? "name" Json.string?
    alternatives := ← json.member? "alternatives" Alternatives.ofJson? }

def RootContract.ofJson? (json : Json) : Option RootContract := do
  return {
    name := ← json.member? "name" Json.string?
    base := ← json.member? "base" Json.string?
    methods := ← json.member? "methods" Json.methods? }

def Declaration.ofJson? (json : Json) : Option Declaration := do
  match ← json.member? "kind" Json.string? with
  | "record" => return record (← Record.ofJson? json)
  | "behavior" => return service (← ServiceClass.ofJson? json)
  | "interface" => return interface (← ServiceContract.ofJson? json)
  | "enum" => return enum (← EnumDefinition.ofJson? json)
  | "union" => return union (← UnionDefinition.ofJson? json)
  | "root" => return root (← RootContract.ofJson? json)
  | _ => none

def Import.ofJson? (json : Json) : Option Import := do
  return {
    org := ← json.member? "org" Json.string?
    module := ← json.member? "module" Json.string? }

def SourceModule.ofJson? (json : Json) : Option SourceModule := do
  return {
    imports := ← json.member? "import" Import.ofJson?
    declarations := ← json.member? "declarations" (Json.list? Declaration.ofJson?) }

def SourceModule.ofText? (text : String) : Option SourceModule :=
  (Json.ofText? text).bind SourceModule.ofJson?

@[simp] theorem Primitive.ofKeyword?_keyword (primitive : Primitive) :
    ofKeyword? primitive.keyword = some primitive := by
  cases primitive <;> rfl

@[simp] theorem Descriptor.ofJson?_json (descriptor : Descriptor) :
    ofJson? descriptor.json = some descriptor := by
  induction descriptor with
  | primitive primitive => simp [json, ofJson?]
  | named name => rfl
  | array _ ih | optional _ ih | stream _ ih => simp [json, ofJson?, ih]

@[simp] theorem Alternatives.ofJson?_json (alternatives : Alternatives) :
    ofJson? alternatives.json = some alternatives := by
  induction alternatives with
  | member name => rfl
  | either left right leftIh rightIh => simp [json, ofJson?, leftIh, rightIh]

@[simp] theorem TypedName.ofJson?_json (typed : TypedName) : ofJson? typed.json = some typed := by
  simp [json, ofJson?]

@[simp] theorem MethodKind.ofWord?_word (kind : MethodKind) : ofWord? kind.word = some kind := by
  cases kind <;> rfl

@[simp] theorem typedNames_read (typed : List TypedName) :
    Json.list? TypedName.ofJson? (.array (typed.map TypedName.json)) = some typed :=
  Json.list?_map TypedName.ofJson?_json typed

@[simp] theorem Method.ofJson?_json (method : Method) : ofJson? method.json = some method := by
  simp [json, ofJson?]

@[simp] theorem Json.methods?_methods (methods : List Method) :
    Json.methods? (Json.methods methods) = some methods :=
  Json.list?_map Method.ofJson?_json methods

@[simp] theorem Declaration.ofJson?_json (declaration : Declaration) :
    ofJson? declaration.json = some declaration := by
  cases declaration with
  | record r =>
    simp [json, word, jsonMembers, Record.jsonMembers, ofJson?, Record.ofJson?]
  | service s =>
    simp [json, word, jsonMembers, ServiceClass.jsonMembers, ofJson?, ServiceClass.ofJson?]
  | interface c =>
    simp [json, word, jsonMembers, ServiceContract.jsonMembers, ofJson?, ServiceContract.ofJson?]
  | enum e =>
    simp [json, word, jsonMembers, EnumDefinition.jsonMembers, ofJson?, EnumDefinition.ofJson?]
  | union u =>
    simp [json, word, jsonMembers, UnionDefinition.jsonMembers, ofJson?, UnionDefinition.ofJson?]
  | root c =>
    simp [json, word, jsonMembers, RootContract.jsonMembers, ofJson?, RootContract.ofJson?]

namespace SourceModule

theorem ofJson?_json (module : SourceModule) : ofJson? module.json = some module := by
  have declarations := Json.list?_map Declaration.ofJson?_json module.declarations
  simp [json, ofJson?, Import.json, Import.ofJson?, declarations]

theorem ofText?_jsonText (module : SourceModule) : ofText? module.jsonText = some module := by
  rw [ofText?, jsonText, Json.ofText?_written module.json (by decide), Option.bind_some,
    ofJson?_json]

-- No two modules have the same text, not even where they differ in the nesting of a union alone.
theorem json_faithful :
    (∀ module : SourceModule, ofText? module.jsonText = some module) ∧
    (∀ module another : SourceModule, module.jsonText = another.jsonText ↔ module = another) ∧
    ∀ (schema : Schema) (root : String) (settings : Settings), ∃ text,
      schema.output root settings .json = .ok text ∧
        ofText? text = some (schema.toModule root settings.recordsForced) := by
  refine ⟨ofText?_jsonText, ?_, ?_⟩
  · intro module another
    constructor
    · intro same
      have read := ofText?_jsonText module
      rw [same, ofText?_jsonText] at read
      exact (Option.some.inj read).symm
    · exact congrArg jsonText
  · intro schema root settings
    exact ⟨_, rfl, ofText?_jsonText _⟩

end SourceModule

end ServiceTypes
