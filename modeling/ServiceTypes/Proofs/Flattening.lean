import ServiceTypes.Proofs.Cover
import ServiceTypes.Proofs.Sections

namespace ServiceTypes

def Shape.members? : Shape → Option Members
  | .object members | .interface members => some members
  | _ => none

def Declaration.flattened? : Declaration → Option (List String × List Method)
  | .service s => some (s.includes, s.methods)
  | .interface c => some (c.includes, c.methods)
  | _ => none

-- The contracts to which the includes lead, at first hand or through other contracts.
inductive SourceModule.Inherits (module : SourceModule) : List String → ServiceContract → Prop where
  | included : .interface contract ∈ module.declarations → contract.name ∈ includes →
      Inherits module includes contract
  | through : .interface middle ∈ module.declarations → middle.name ∈ includes →
      Inherits module middle.includes contract → Inherits module includes contract

def SourceModule.inheritsMethod (module : SourceModule) (includes : List String) (method : String) :
    Prop :=
  ∃ contract, module.Inherits includes contract ∧ method ∈ contract.methods.map Method.name

namespace Schema

-- What a validated schema promises of its interfaces, as far as it matters here.
structure SoundInterfaces (schema : Schema) : Prop where
  acyclic : ∀ name, ¬ Relation.TransGen schema.Lists name name
  listed : ∀ type ∈ schema.types, ∀ members, type.shape.members? = some members →
    ∀ name ∈ members.interfaces,
      (schema.interface? name).isSome = true ∧ schema.isDeclared name = true
  fulfilled : ∀ type ∈ schema.types, ∀ members, type.shape.members? = some members →
    ∀ name ∈ members.interfaces, ∀ field ∈ schema.definedBy name,
      field ∈ members.fields.map Field.name

variable {schema : Schema} {recordsForced : Bool} {declaration : Declaration} {type : SchemaType}
  {name method : String} {includes : List String} {methods : List Method} {members : Members}
  {contract : ServiceContract}

theorem flattened_of_declared (inside : declaration ∈ schema.declarations recordsForced)
    (parts : declaration.flattened? = some (includes, methods)) :
    ∃ type ∈ schema.types, type.name = declaration.name ∧ ∃ members,
      type.shape.members? = some members ∧ includes = schema.includes members ∧
      methods = schema.ownMethods members := by
  obtain ⟨type, member, rule⟩ := mem_declarations.mp inside
  refine ⟨type, member, rule.name_eq.symm, ?_⟩
  cases rule with
  | interface declared | service declared chosen => cases parts; exact ⟨_, rfl, rfl, rfl⟩
  | _ => cases parts

theorem contract_declared (found : schema.interface? name = some members)
    (declared : schema.isDeclared name = true) :
    .interface (schema.serviceContract name members) ∈ schema.declarations recordsForced :=
  mem_declarations.mpr ⟨_, interface?_eq_some.mp found, .interface declared⟩

theorem contract_origin (inside : .interface contract ∈ schema.declarations recordsForced) :
    ∃ members, schema.interface? contract.name = some members ∧
      contract = schema.serviceContract contract.name members := by
  obtain ⟨type, member, rule⟩ := mem_declarations.mp inside
  cases rule with
  | interface declared => exact ⟨_, interface?_eq_some.mpr member, rfl⟩

theorem interface_mem_toModule {root : String} :
    .interface contract ∈ (schema.toModule root recordsForced).declarations ↔
      .interface contract ∈ schema.declarations recordsForced := by
  simp [toModule]

theorem ownMethods_names (schema : Schema) (members : Members) :
    (schema.ownMethods members).map Method.name =
      (schema.uncovered members.fields (schema.includes members)).map Field.name :=
  List.map_map

theorem getter_of_mem_ownMethods {method : Method} (own : method ∈ schema.ownMethods members) :
    ∃ field ∈ members.fields, method = schema.getter field := by
  obtain ⟨field, kept, rfl⟩ := List.mem_map.mp own
  exact ⟨field, (mem_uncovered.mp kept).1, rfl⟩

theorem mem_ownMethods_names : name ∈ (schema.ownMethods members).map Method.name ↔
    name ∈ members.fields.map Field.name ∧
      ∀ interface ∈ schema.includes members, name ∉ schema.definedBy interface := by
  rw [ownMethods_names]
  constructor
  · intro present
    obtain ⟨field, kept, rfl⟩ := List.mem_map.mp present
    obtain ⟨inside, uncovered⟩ := mem_uncovered.mp kept
    exact ⟨List.mem_map_of_mem inside, uncovered⟩
  · intro given
    obtain ⟨present, uncovered⟩ := given
    obtain ⟨field, inside, rfl⟩ := List.mem_map.mp present
    exact List.mem_map_of_mem (mem_uncovered.mpr ⟨inside, uncovered⟩)

theorem SoundInterfaces.split_fields (sound : schema.SoundInterfaces) (member : type ∈ schema.types)
    (shape : type.shape.members? = some members) :
    name ∈ members.fields.map Field.name ↔
      name ∈ (schema.ownMethods members).map Method.name ∨
        ∃ interface ∈ schema.includes members, name ∈ schema.definedBy interface := by
  rw [mem_ownMethods_names]
  constructor
  · intro present
    by_cases covered : ∃ interface ∈ schema.includes members, name ∈ schema.definedBy interface
    · exact .inr covered
    · exact .inl ⟨present, fun interface listed defined => covered ⟨interface, listed, defined⟩⟩
  · intro split
    rcases split with ⟨present, -⟩ | ⟨interface, listed, defined⟩
    · exact present
    · exact sound.fulfilled type member members shape interface (mem_of_mem_unimplied listed) name
        defined

def HandsOn (schema : Schema) (module : SourceModule) (name : String) : Prop :=
  ∀ contract, .interface contract ∈ module.declarations → contract.name = name → ∀ method,
    method ∈ contract.methods.map Method.name ∨ module.inheritsMethod contract.includes method ↔
      method ∈ schema.definedBy name

-- One level: if each include hands on its fields, what is inherited is what the includes define.
theorem inheritsMethod_iff {root : String}
    (listed : ∀ name ∈ includes,
      (schema.interface? name).isSome = true ∧ schema.isDeclared name = true)
    (handsOn : ∀ name ∈ includes, schema.HandsOn (schema.toModule root recordsForced) name) :
    (schema.toModule root recordsForced).inheritsMethod includes method ↔
      ∃ name ∈ includes, method ∈ schema.definedBy name := by
  constructor
  · intro inherited
    obtain ⟨contract, inherits, present⟩ := inherited
    cases inherits with
    | included inside named =>
      exact ⟨contract.name, named, (handsOn _ named contract inside rfl method).mp (.inl present)⟩
    -- The first step of the way is an include of its own, and it hands the method on.
    | through inside named further =>
      rename_i middle
      refine ⟨middle.name, named, (handsOn _ named middle inside rfl method).mp (.inr ?_)⟩
      exact ⟨contract, further, present⟩
  · intro included
    obtain ⟨name, named, defined⟩ := included
    obtain ⟨found, declared⟩ := listed name named
    obtain ⟨members, found⟩ := Option.isSome_iff_exists.mp found
    have inside : .interface (schema.serviceContract name members) ∈
        (schema.toModule root recordsForced).declarations :=
      interface_mem_toModule.mpr (contract_declared found declared)
    rcases (handsOn name named _ inside rfl method).mpr defined with own | inherited
    · exact ⟨_, .included inside named, own⟩
    · obtain ⟨contract, further, present⟩ := inherited
      exact ⟨contract, .through inside named further, present⟩

theorem SoundInterfaces.handsOn (sound : schema.SoundInterfaces) {root : String}
    (inside : name ∈ schema.types.map SchemaType.name) :
    schema.HandsOn (schema.toModule root recordsForced) name := by
  -- Induction along the lists: an interface that lists others stands above them.
  refine (wellFoundedOn_names sound.acyclic schema).induction inside ?_
  intro name _ lower contract declared named method
  obtain ⟨members, found, same⟩ := contract_origin (interface_mem_toModule.mp declared)
  rw [named] at found same
  have member := interface?_eq_some.mp found
  have listed := sound.listed _ member members rfl
  have below : ∀ other ∈ schema.includes members,
      schema.HandsOn (schema.toModule root recordsForced) other := by
    intro other included
    have lists : schema.Lists name other := ⟨members, found, mem_of_mem_unimplied included⟩
    obtain ⟨others, known⟩ :=
      Option.isSome_iff_exists.mp (listed other (mem_of_mem_unimplied included)).1
    have stands : other ∈ schema.types.map SchemaType.name :=
      List.mem_map.mpr ⟨_, interface?_eq_some.mp known, rfl⟩
    exact lower other stands (.single lists)
  rw [definedBy_eq found, sound.split_fields member rfl, same]
  exact or_congr_right
    (inheritsMethod_iff (fun other included => listed other (mem_of_mem_unimplied included)) below)

theorem flattened_members_exact (schema : Schema) (sound : schema.SoundInterfaces) (root : String)
    (recordsForced : Bool) (declaration : Declaration) (includes : List String)
    (methods : List Method)
    (present : declaration ∈ (schema.toModule root recordsForced).declarations)
    (parts : declaration.flattened? = some (includes, methods)) :
    ∃ type ∈ schema.types, type.name = declaration.name ∧ ∃ members,
      type.shape.members? = some members ∧
      (∀ name ∈ methods.map Method.name,
        ¬ (schema.toModule root recordsForced).inheritsMethod includes name) ∧
      ∀ name, name ∈ members.fields.map Field.name ↔ name ∈ methods.map Method.name ∨
        (schema.toModule root recordsForced).inheritsMethod includes name := by
  have inside : declaration ∈ schema.declarations recordsForced := by
    rcases List.mem_cons.mp present with rfl | inside
    · cases parts
    · exact inside
  obtain ⟨type, member, named, members, shape, rfl, rfl⟩ := flattened_of_declared inside parts
  have listed : ∀ name ∈ schema.includes members,
      (schema.interface? name).isSome = true ∧ schema.isDeclared name = true :=
    fun name included => sound.listed type member members shape name (mem_of_mem_unimplied included)
  have inherited (name : String) :
      (schema.toModule root recordsForced).inheritsMethod (schema.includes members) name ↔
        ∃ interface ∈ schema.includes members, name ∈ schema.definedBy interface := by
    refine inheritsMethod_iff listed fun interface included => sound.handsOn ?_
    obtain ⟨others, known⟩ := Option.isSome_iff_exists.mp (listed interface included).1
    exact List.mem_map.mpr ⟨_, interface?_eq_some.mp known, rfl⟩
  refine ⟨type, member, named, members, shape, ?_, ?_⟩
  · intro name own
    rw [inherited]
    intro covered
    obtain ⟨interface, included, defined⟩ := covered
    exact (mem_ownMethods_names.mp own).2 interface included defined
  · intro name
    rw [inherited]
    exact sound.split_fields member shape

-- `User` lists `Node` beside an interface that comes to `Node` in two steps, so both are included.
def accountSchema : Schema where
  types := [
    ⟨"Node", .interface ⟨[⟨"id", .named "ID", []⟩], []⟩⟩,
    ⟨"Named", .interface ⟨[⟨"id", .named "ID", []⟩, ⟨"name", .named "String", []⟩], ["Node"]⟩⟩,
    ⟨"Account", .interface ⟨[⟨"id", .named "ID", []⟩, ⟨"name", .named "String", []⟩,
      ⟨"owner", .named "User", []⟩], ["Named"]⟩⟩,
    ⟨"User", .object ⟨[⟨"id", .named "ID", []⟩, ⟨"name", .named "String", []⟩,
      ⟨"owner", .named "User", []⟩, ⟨"age", .named "Int", []⟩], ["Account", "Node"]⟩⟩]
  names_nodup := by decide

theorem accountSchema_acyclic (name : String) :
    ¬ Relation.TransGen accountSchema.Lists name name := by
  have drop : ∀ upper lower, accountSchema.Lists upper lower → lower.length < upper.length := by
    intro upper lower lists
    obtain ⟨members, found, listed⟩ := lists
    have member := interface?_eq_some.mp found
    simp only [accountSchema, List.mem_cons, SchemaType.mk.injEq, Shape.interface.injEq,
      List.not_mem_nil, or_false, reduceCtorEq, and_false] at member
    rcases member with ⟨rfl, rfl⟩ | ⟨rfl, rfl⟩ | ⟨rfl, rfl⟩
    · cases listed
    · obtain rfl := List.mem_singleton.mp listed
      decide
    · obtain rfl := List.mem_singleton.mp listed
      decide
  have shorter : ∀ lower, Relation.TransGen accountSchema.Lists name lower →
      lower.length < name.length := by
    intro lower way
    induction way with
    | single step => exact drop _ _ step
    | tail _ step ih => exact (drop _ _ step).trans ih
  exact fun cycle => Nat.lt_irrefl _ (shorter name cycle)

theorem accountSchema_sound : accountSchema.SoundInterfaces := by
  refine ⟨accountSchema_acyclic, ?_, ?_⟩ <;> intro type member members shape <;>
    simp only [accountSchema, List.mem_cons, List.not_mem_nil, or_false] at member <;>
    rcases member with rfl | rfl | rfl | rfl <;> cases shape <;> decide

theorem user_members_exact :
    ∃ type ∈ accountSchema.types, type.name = "User" ∧ ∃ members,
      type.shape.members? = some members ∧
      (∀ name ∈ ["age"],
        ¬ (accountSchema.toModule "Accounts" true).inheritsMethod ["Account", "Node"] name) ∧
      ∀ name, name ∈ members.fields.map Field.name ↔ name ∈ ["age"] ∨
        (accountSchema.toModule "Accounts" true).inheritsMethod ["Account", "Node"] name :=
  flattened_members_exact accountSchema accountSchema_sound "Accounts" true
    (.service ⟨"User", true, ["Account", "Node"],
      [⟨.get, "age", [], .optional (.primitive .int)⟩]⟩) ["Account", "Node"]
    [⟨.get, "age", [], .optional (.primitive .int)⟩] (by decide) rfl

end Schema

end ServiceTypes
