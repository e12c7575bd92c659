import Mathlib.Data.List.Nodup
import ServiceTypes.Declaration.OfSchema
import ServiceTypes.Proofs.Table

namespace ServiceTypes

def Shape.needsDeclaration : Shape → Bool
  | .scalar => false
  | .union members => !members.isEmpty
  | _ => true

def Sections.ofKind (sections : Sections) : Kind → List Declaration
  | .inputObject => sections.inputObjects
  | .interface => sections.interfaces
  | .enum => sections.enums
  | .union => sections.unions
  | .object => sections.objects
  | .scalar => []

def Declaration.kind? : Declaration → Option Kind
  | record r => some (if r.closed then .inputObject else .object)
  | service _ => some .object
  | interface _ => some .interface
  | enum _ => some .enum
  | union _ => some .union
  | root _ => none

def Kind.inWritingOrder : List Kind := [.inputObject, .interface, .enum, .union, .object]

theorem Sections.declarations_eq_flatMap (sections : Sections) :
    sections.declarations = Kind.inWritingOrder.flatMap sections.ofKind := by
  simp [Sections.declarations, Kind.inWritingOrder, Sections.ofKind]

namespace Schema

-- The one declaration of a type, said without a pass over the table.
def declaration? (schema : Schema) (recordsForced : Bool) (type : SchemaType) :
    Option Declaration :=
  if schema.isDeclared type.name then match type.shape with
    | .scalar => none
    | .inputObject fields => some (.record (schema.closedRecord type.name fields))
    | .interface members => some (.interface (schema.serviceContract type.name members))
    | .enum values => some (.enum ⟨type.name, values⟩)
    | .union members => (UnionDefinition.ofMembers? type.name members).map .union
    | .object members =>
      some (schema.objectDeclaration
        (.choose recordsForced schema.unionMembers type.name members) type.name members)
  else none

def declares (schema : Schema) (type : SchemaType) : Bool :=
  schema.isDeclared type.name && type.shape.needsDeclaration

-- The same as rules, one for each kind of declaration.
inductive DeclaredAs (schema : Schema) (recordsForced : Bool) :
    SchemaType → Declaration → Prop where
  | inputObject (declared : schema.isDeclared name = true) :
      DeclaredAs schema recordsForced ⟨name, .inputObject fields⟩
        (.record (schema.closedRecord name fields))
  | interface (declared : schema.isDeclared name = true) :
      DeclaredAs schema recordsForced ⟨name, .interface members⟩
        (.interface (schema.serviceContract name members))
  | enum (declared : schema.isDeclared name = true) :
      DeclaredAs schema recordsForced ⟨name, .enum values⟩ (.enum ⟨name, values⟩)
  | union (declared : schema.isDeclared name = true)
      (made : UnionDefinition.ofMembers? name alternatives = some definition) :
      DeclaredAs schema recordsForced ⟨name, .union alternatives⟩ (.union definition)
  | record (declared : schema.isDeclared name = true)
      (chosen : Representation.choose recordsForced schema.unionMembers name members = .record) :
      DeclaredAs schema recordsForced ⟨name, .object members⟩
        (.record (schema.openRecord name members))
  | service (declared : schema.isDeclared name = true)
      (chosen : Representation.choose recordsForced schema.unionMembers name members = .service) :
      DeclaredAs schema recordsForced ⟨name, .object members⟩
        (.service (schema.serviceClass name members))

variable {schema : Schema} {recordsForced : Bool} {type : SchemaType} {declaration : Declaration}
  {members : Members}

@[simp] theorem objectDeclaration_name (representation : Representation) (name : String) :
    (schema.objectDeclaration representation name members).name = name := by
  cases representation <;> rfl

theorem declaration?_name (schema : Schema) (recordsForced : Bool) (type : SchemaType) :
    (schema.declaration? recordsForced type).map Declaration.name =
      if schema.declares type then some type.name else none := by
  unfold declaration? declares
  cases declared : schema.isDeclared type.name with
  | false => simp
  | true =>
    cases shape : type.shape with
    | union names =>
      cases names <;> simp [Shape.needsDeclaration, UnionDefinition.ofMembers?,
        Alternatives.ofMembers?, Declaration.name]
    | object members => simp [Shape.needsDeclaration]
    | _ => simp [Shape.needsDeclaration, Declaration.name, closedRecord, serviceContract]

theorem declaration?_exact : schema.declaration? recordsForced type = some declaration ↔
    schema.DeclaredAs recordsForced type declaration := by
  obtain ⟨name, shape⟩ := type
  constructor
  · intro found
    unfold declaration? at found
    split at found
    · rename_i declared
      cases shape with
      | scalar => cases found
      | inputObject fields => cases found; exact .inputObject declared
      | interface members => cases found; exact .interface declared
      | enum values => cases found; exact .enum declared
      | union alternatives =>
        obtain ⟨definition, made, rfl⟩ := Option.map_eq_some_iff.mp found
        exact .union declared made
      | object members =>
        cases found
        cases chosen : Representation.choose recordsForced schema.unionMembers name members with
        | record => exact .record declared chosen
        | service => exact .service declared chosen
    · cases found
  · intro rule
    cases rule with
    | inputObject declared | interface declared | enum declared => simp [declaration?, declared]
    | union declared made => simp [declaration?, declared, made]
    | record declared chosen | service declared chosen =>
      simp [declaration?, declared, chosen, objectDeclaration]

theorem DeclaredAs.name_eq (rule : schema.DeclaredAs recordsForced type declaration) :
    declaration.name = type.name := by
  cases rule with
  | union declared made =>
    obtain ⟨alternatives, _, rfl⟩ := Option.map_eq_some_iff.mp made
    rfl
  | _ => rfl

theorem DeclaredAs.kind?_eq (rule : schema.DeclaredAs recordsForced type declaration) :
    declaration.kind? = some type.kind := by
  cases rule <;> rfl

theorem DeclaredAs.isDeclared (rule : schema.DeclaredAs recordsForced type declaration) :
    schema.isDeclared type.name = true := by
  cases rule <;> assumption

theorem declaration?_isSome (schema : Schema) (recordsForced : Bool) (type : SchemaType) :
    (schema.declaration? recordsForced type).isSome = schema.declares type := by
  have named := congrArg Option.isSome (schema.declaration?_name recordsForced type)
  rw [Option.isSome_map] at named
  rw [named]
  cases schema.declares type <;> rfl

theorem representations_names (schema : Schema) (recordsForced : Bool) :
    (schema.representations recordsForced).map Prod.fst =
      (schema.types.filter fun type => type.kind = .object && schema.isDeclared type.name).map
        SchemaType.name := by
  rw [representations, List.map_filterMap]
  induction schema.types with
  | nil => rfl
  | cons type rest ih =>
    cases shape : type.shape with
    | object members =>
      cases declared : schema.isDeclared type.name <;>
        simp [SchemaType.kind, Shape.kind, shape, declared, ih]
    | _ => simp [SchemaType.kind, Shape.kind, shape, ih]

theorem lookup_representations (member : type ∈ schema.types)
    (declared : schema.isDeclared type.name = true) (shape : type.shape = .object members) :
    (schema.representations recordsForced).lookup type.name =
      some (.choose recordsForced schema.unionMembers type.name members) := by
  have entry :
      (type.name, Representation.choose recordsForced schema.unionMembers type.name members)
        ∈ schema.representations recordsForced := by
    refine List.mem_filterMap.mpr ⟨type, member, ?_⟩
    simp [shape, declared]
  have nodup : ((schema.representations recordsForced).map Prod.fst).Nodup := by
    rw [representations_names]
    exact (List.filter_sublist.map _).nodup schema.names_nodup
  obtain ⟨before, after, split⟩ := List.append_of_mem entry
  rw [split, List.map_append, List.nodup_append] at nodup
  refine List.lookup_eq_some_iff.mpr ⟨before, after, split, ?_⟩
  intro earlier present
  have differs := nodup.2.2 earlier.1 (List.mem_map_of_mem present) type.name (by simp)
  simpa using fun same => differs same.symm

-- Its declaration goes in front of the section of its kind, and nothing elsewhere.
theorem addTo_ofKind (member : type ∈ schema.types) (declared : schema.isDeclared type.name = true)
    (sections : Sections) (kind : Kind) :
    (schema.addTo (schema.representations recordsForced) type sections).ofKind kind =
      (if type.kind = kind then (schema.declaration? recordsForced type).toList else [])
        ++ sections.ofKind kind := by
  unfold addTo declaration?
  rw [if_pos declared]
  cases shape : type.shape with
  | object members =>
    rw [lookup_representations member declared shape]
    cases kind <;> simp [Sections.ofKind, SchemaType.kind, Shape.kind, shape]
  | union names =>
    cases made : UnionDefinition.ofMembers? type.name names <;> cases kind <;>
      simp [Sections.ofKind, SchemaType.kind, Shape.kind, shape, made]
  | _ => cases kind <;> simp [Sections.ofKind, SchemaType.kind, Shape.kind, shape]

theorem sections_ofKind (schema : Schema) (recordsForced : Bool) (kind : Kind) :
    (schema.sections recordsForced).ofKind kind =
      (schema.types.filter (·.kind = kind)).filterMap (schema.declaration? recordsForced) := by
  unfold sections
  -- Representations are looked up in the whole table while the pass goes down its tails.
  suffices pass : ∀ types ⊆ schema.types,
      (types.foldr (fun type sections => if schema.isDeclared type.name then
        schema.addTo (schema.representations recordsForced) type sections else sections)
        ({} : Sections)).ofKind kind =
      (types.filter (·.kind = kind)).filterMap (schema.declaration? recordsForced) from
    pass schema.types (List.Subset.refl _)
  intro types within
  induction types with
  | nil => cases kind <;> rfl
  | cons type rest ih =>
    have member : type ∈ schema.types := within (List.mem_cons_self ..)
    have tail := ih (fun other present => within (List.mem_cons_of_mem _ present))
    rw [List.foldr_cons]
    cases declared : schema.isDeclared type.name with
    | false =>
      have absent : schema.declaration? recordsForced type = none := by
        simp [declaration?, declared]
      by_cases same : type.kind = kind <;> simp [same, tail, absent]
    | true =>
      rw [if_pos rfl, addTo_ofKind member declared, tail]
      by_cases same : type.kind = kind
      · cases found : schema.declaration? recordsForced type <;> simp [same, found]
      · simp [same]

theorem declarations_eq_flatMap (schema : Schema) (recordsForced : Bool) :
    schema.declarations recordsForced = Kind.inWritingOrder.flatMap fun kind =>
      (schema.types.filter (·.kind = kind)).filterMap (schema.declaration? recordsForced) := by
  rw [declarations, Sections.declarations_eq_flatMap]
  exact List.flatMap_congr fun kind _ => schema.sections_ofKind recordsForced kind

theorem mem_declarations : declaration ∈ schema.declarations recordsForced ↔
    ∃ type ∈ schema.types, schema.DeclaredAs recordsForced type declaration := by
  simp only [← declaration?_exact]
  rw [declarations_eq_flatMap]
  constructor
  · intro present
    obtain ⟨kind, -, inside⟩ := List.mem_flatMap.mp present
    obtain ⟨type, kept, found⟩ := List.mem_filterMap.mp inside
    exact ⟨type, (List.mem_filter.mp kept).1, found⟩
  · intro declared
    obtain ⟨type, member, found⟩ := declared
    have written : type.kind ∈ Kind.inWritingOrder := by
      cases shape : type.shape <;> simp [Kind.inWritingOrder, SchemaType.kind, Shape.kind, shape]
      simp [declaration?, shape] at found
    refine List.mem_flatMap.mpr ⟨type.kind, written, List.mem_filterMap.mpr ⟨type, ?_, found⟩⟩
    exact List.mem_filter.mpr ⟨member, by simp⟩

variable {name : String} {kind : MethodKind} {method : Method}

theorem rootObject_placed {root : Option String} (found : root.bind schema.object? = some members) :
    ∃ type ∈ schema.types, type.shape = .object members := by
  obtain ⟨name, -, member⟩ := root?_eq_some.mp found
  exact ⟨_, member, rfl⟩

theorem mem_rootMethods {operation : Option Members}
    (present : method ∈ schema.rootMethods kind operation) :
    ∃ members, operation = some members ∧ ∃ field ∈ members.fields,
      method = schema.rootMethod kind field := by
  cases operation with
  | none => cases present
  | some members =>
    obtain ⟨field, inside, rfl⟩ := List.mem_map.mp present
    exact ⟨members, rfl, field, inside, rfl⟩

theorem mem_rootContract_methods (present : method ∈ (schema.rootContract name).methods) :
    ∃ type ∈ schema.types, ∃ members, type.shape = .object members ∧
      ∃ field ∈ members.fields, ∃ kind, method = schema.rootMethod kind field := by
  have calls : ∀ (kind : MethodKind) (root : Option String),
      method ∈ schema.rootMethods kind (root.bind schema.object?) →
      ∃ type ∈ schema.types, ∃ members, type.shape = .object members ∧
        ∃ field ∈ members.fields, ∃ kind, method = schema.rootMethod kind field := by
    intro kind root inside
    obtain ⟨members, found, field, listed, rfl⟩ := mem_rootMethods inside
    obtain ⟨type, member, shape⟩ := rootObject_placed found
    exact ⟨type, member, members, shape, field, listed, kind, rfl⟩
  rcases List.mem_append.mp present with early | subscription
  · rcases List.mem_append.mp early with query | mutation
    · exact calls _ _ query
    · exact calls _ _ mutation
  · exact calls _ _ subscription

end Schema

end ServiceTypes
