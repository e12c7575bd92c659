import Mathlib.Data.List.Forall2
import ServiceTypes.Proofs.References

namespace ServiceTypes

inductive Descriptor.Streamless : Descriptor → Prop where
  | primitive : Streamless (.primitive scalar)
  | named : Streamless (.named name)
  | array (element : Streamless descriptor) : Streamless (.array descriptor)
  | optional (inner : Streamless descriptor) : Streamless (.optional descriptor)

-- Types are written in two places: on the fields of records and in the signatures of methods.
def Declaration.fields : Declaration → List TypedName
  | record r => r.fields
  | service _ | interface _ | enum _ | union _ | root _ => []

def Declaration.methods : Declaration → List Method
  | service s => s.methods
  | interface c => c.methods
  | root c => c.methods
  | record _ | enum _ | union _ => []

structure Method.StreamsOnReturn (method : Method) : Prop where
  params : ∀ param ∈ method.params, param.type.Streamless
  subscribed : method.kind = .subscribe →
    ∃ element, method.returns = .stream element ∧ element.Streamless
  called : method.kind ≠ .subscribe → method.returns.Streamless

structure Method.Calls (schema : Schema) (operation : MethodKind × Field) (method : Method) :
    Prop where
  kind : method.kind = operation.1
  name : method.name = operation.2.name
  params : List.Forall₂ (fun argument param =>
      param.name = argument.name ∧ param.type = schema.describe argument.type)
    operation.2.arguments method.params
  returns : method.returns =
    if operation.1 = .subscribe then .stream (schema.describe operation.2.type)
    else schema.describe operation.2.type

namespace Schema

-- The fields behind the name of a root operation. There are none unless it names an object.
inductive RootFields (schema : Schema) : Option String → List Field → Prop where
  | unnamed : RootFields schema none []
  | missing (absent : ∀ type ∈ schema.types, type.name ≠ name) : RootFields schema (some name) []
  | unfit (member : type ∈ schema.types) (other : type.kind ≠ .object) :
      RootFields schema (some type.name) []
  | object (member : ⟨name, .object members⟩ ∈ schema.types) :
      RootFields schema (some name) members.fields

variable {schema : Schema} {recordsForced : Bool} {type : SchemaType} {declaration : Declaration}
  {method : Method}

def operationFields : Option Members → List Field
  | some members => members.fields
  | none => []

theorem rootFields_object? (schema : Schema) (root : Option String) :
    schema.RootFields root (operationFields (root.bind schema.object?)) := by
  cases root with
  | none => exact .unnamed
  | some name =>
    change schema.RootFields (some name) (operationFields (schema.object? name))
    cases found : schema.object? name with
    | some members => exact .object (object?_eq_some.mp found)
    | none =>
      cases got : schema.get? name with
      | none => exact .missing (get?_eq_none.mp got)
      | some type =>
        obtain ⟨member, rfl⟩ := get?_eq_some.mp got
        refine .unfit member fun isObject => ?_
        cases shape : type.shape with
        | object members =>
          have known : schema.object? type.name = some members :=
            object?_eq_some.mpr (shape ▸ member)
          rw [known] at found
          cases found
        | _ => simp [SchemaType.kind, Shape.kind, shape] at isObject

theorem rootMethod_calls (schema : Schema) (kind : MethodKind) (field : Field) :
    Method.Calls schema (kind, field) (schema.rootMethod kind field) := by
  have params : List.Forall₂ (fun argument param =>
      param.name = argument.name ∧ param.type = schema.describe argument.type)
      field.arguments (field.arguments.map schema.typedName) :=
    List.forall₂_map_right_iff.mpr (List.forall₂_same.mpr fun _ _ => ⟨rfl, rfl⟩)
  cases kind <;> exact ⟨rfl, rfl, params, rfl⟩

theorem rootMethods_call (schema : Schema) (kind : MethodKind) (operation : Option Members) :
    List.Forall₂ (Method.Calls schema) ((operationFields operation).map (kind, ·))
      (schema.rootMethods kind operation) := by
  cases operation with
  | none => exact .nil
  | some members =>
    refine List.forall₂_map_left_iff.mpr (List.forall₂_map_right_iff.mpr ?_)
    exact List.forall₂_same.mpr fun field _ => schema.rootMethod_calls kind field

theorem streamless_nullableUnless {descriptor : Descriptor} (nonNull : Bool)
    (streamless : descriptor.Streamless) : (descriptor.nullableUnless nonNull).Streamless := by
  cases nonNull with
  | false => exact .optional streamless
  | true => exact streamless

theorem streamless_targetDescriptor (schema : Schema) (name : String) :
    (schema.targetDescriptor name).Streamless := by
  unfold targetDescriptor
  split
  · exact .primitive
  · exact .primitive
  · exact .named

theorem streamless_descriptor (schema : Schema) (nonNull : Bool) (reference : TypeRef) :
    (schema.descriptor nonNull reference).Streamless := by
  induction reference generalizing nonNull with
  | named name => exact streamless_nullableUnless nonNull (schema.streamless_targetDescriptor name)
  | list element ih => exact streamless_nullableUnless nonNull (.array (ih false))
  | nonNull inner ih => exact ih true

theorem streamless_describe (schema : Schema) (reference : TypeRef) :
    (schema.describe reference).Streamless :=
  schema.streamless_descriptor false reference

theorem rootMethod_streamsOnReturn (schema : Schema) (kind : MethodKind) (field : Field) :
    (schema.rootMethod kind field).StreamsOnReturn := by
  have params : ∀ param ∈ field.arguments.map schema.typedName, param.type.Streamless := by
    intro param listed
    obtain ⟨argument, -, rfl⟩ := List.mem_map.mp listed
    exact schema.streamless_describe argument.type
  have returned := schema.streamless_describe field.type
  cases kind with
  | get | remote => exact ⟨params, nofun, fun _ => returned⟩
  | subscribe => exact ⟨params, fun _ => ⟨_, rfl, returned⟩, fun called => absurd rfl called⟩

theorem getter_of_mem_methods (rule : schema.DeclaredAs recordsForced type declaration)
    (listed : method ∈ declaration.methods) : ∃ field, method = schema.getter field := by
  cases rule with
  | interface declared | service declared chosen =>
    obtain ⟨field, -, same⟩ := getter_of_mem_ownMethods listed
    exact ⟨field, same⟩
  | inputObject declared | enum declared | union declared made | record declared chosen =>
    cases listed

theorem DeclaredAs.fields_streamless (rule : schema.DeclaredAs recordsForced type declaration)
    {field : TypedName} (listed : field ∈ declaration.fields) : field.type.Streamless := by
  cases rule with
  | inputObject declared =>
    obtain ⟨argument, -, rfl⟩ := List.mem_map.mp listed
    exact schema.streamless_describe argument.type
  | record declared chosen =>
    obtain ⟨field, -, rfl⟩ := List.mem_map.mp listed
    exact schema.streamless_describe field.type
  | interface declared | service declared chosen | enum declared | union declared made =>
    cases listed

theorem rootMethod_of_mem_methods {name : String}
    (present : declaration ∈ (schema.toModule name recordsForced).declarations)
    (listed : method ∈ declaration.methods) :
    ∃ kind field, method = schema.rootMethod kind field := by
  rcases List.mem_cons.mp present with rfl | inside
  · obtain ⟨_, _, _, _, field, _, kind, same⟩ := mem_rootContract_methods listed
    exact ⟨kind, field, same⟩
  · obtain ⟨type, -, rule⟩ := mem_declarations.mp inside
    obtain ⟨field, same⟩ := getter_of_mem_methods rule listed
    exact ⟨.get, field, same⟩

theorem fields_streamless {name : String}
    (present : declaration ∈ (schema.toModule name recordsForced).declarations) :
    ∀ field ∈ declaration.fields, field.type.Streamless := by
  intro field listed
  rcases List.mem_cons.mp present with rfl | inside
  · cases listed
  · obtain ⟨type, -, rule⟩ := mem_declarations.mp inside
    exact rule.fields_streamless listed

-- Actions and subscriptions are for the root contract alone. Its methods call the fields of the
-- root objects one by one, also where two roots name the same object.
theorem calls_confined_to_root (schema : Schema) (name : String) (recordsForced : Bool) :
    ∃ (contract : RootContract) (others : List Declaration)
      (query mutation subscription : List Field),
      (schema.toModule name recordsForced).declarations = .root contract :: others ∧
      (∀ other, .root other ∉ others) ∧
      schema.RootFields schema.roots.query query ∧
      schema.RootFields schema.roots.mutation mutation ∧
      schema.RootFields schema.roots.subscription subscription ∧
      List.Forall₂ (Method.Calls schema)
        (query.map (.get, ·) ++ mutation.map (.remote, ·) ++ subscription.map (.subscribe, ·))
        contract.methods ∧
      (∀ other ∈ others, ∀ method ∈ other.methods, method.kind = .get) ∧
      ∀ declaration ∈ (schema.toModule name recordsForced).declarations,
        (∀ field ∈ declaration.fields, field.type.Streamless) ∧
        ∀ method ∈ declaration.methods, method.StreamsOnReturn := by
  refine ⟨schema.rootContract name, schema.declarations recordsForced, _, _, _, rfl, ?_,
    schema.rootFields_object? _, schema.rootFields_object? _, schema.rootFields_object? _,
    ?_, ?_, ?_⟩
  · intro other inside
    obtain ⟨type, -, rule⟩ := mem_declarations.mp inside
    cases rule
  · refine List.rel_append (List.rel_append ?_ ?_) ?_
    · exact schema.rootMethods_call .get schema.query?
    · exact schema.rootMethods_call .remote schema.mutation?
    · exact schema.rootMethods_call .subscribe schema.subscription?
  -- Behind the contract every method is a getter, in classes and in contracts alike.
  · intro other inside method listed
    obtain ⟨type, -, rule⟩ := mem_declarations.mp inside
    obtain ⟨field, rfl⟩ := getter_of_mem_methods rule listed
    rfl
  · intro declaration present
    refine ⟨fields_streamless present, fun method listed => ?_⟩
    obtain ⟨kind, field, rfl⟩ := rootMethod_of_mem_methods present listed
    exact schema.rootMethod_streamsOnReturn kind field

def newsSchema : Schema where
  types := [⟨"News", .object ⟨[⟨"latest", .list (.named "ID"), [⟨"of", .named "Int"⟩]⟩], []⟩⟩]
  roots := { query := some "News", mutation := some "Desk", subscription := some "News" }
  names_nodup := by decide

example :
    let params : List TypedName := [⟨"of", .optional (.primitive .int)⟩]
    let latest : Descriptor := .optional (.array (.optional (.primitive .string)))
    (newsSchema.rootContract "Feed").methods =
      [⟨.get, "latest", params, latest⟩, ⟨.subscribe, "latest", params, .stream latest⟩] := by
  decide

end Schema

end ServiceTypes
