import Mathlib.Data.List.Forall2
import ServiceTypes.Proofs.ReportColumns
import ServiceTypes.Proofs.Sections

namespace ServiceTypes

namespace Schema

variable {schema : Schema} {recordsForced : Bool} {type : SchemaType} {declaration : Declaration}
  {members : Members} {name : String}

-- What an object must be like to lose nothing as a record.
structure FitsRecord (schema : Schema) (name : String) (members : Members) : Prop where
  plain : ∀ field ∈ members.fields, field.arguments = []
  alone : members.interfaces = []
  free : ∀ union ∈ schema.types, ∀ names, union.shape = .union names →
    isIntrospective union.name = false → name ∉ names

theorem mem_unionMembers : name ∈ schema.unionMembers ↔ ∃ union ∈ schema.types, ∃ names,
    union.shape = .union names ∧ isIntrospective union.name = false ∧ name ∈ names := by
  rw [unionMembers, List.mem_flatMap]
  refine exists_congr fun union => and_congr_right fun _ => ?_
  cases shape : union.shape with
  | union names => cases introspective : isIntrospective union.name <;> simp
  | _ => simp

theorem takesArguments_eq_false :
    members.takesArguments = false ↔ ∀ field ∈ members.fields, field.arguments = [] := by
  simp [Members.takesArguments, Field.takesArguments]

theorem fitsRecord_iff :
    fitsRecord schema.unionMembers name members = true ↔ schema.FitsRecord name members := by
  simp only [fitsRecord, Bool.and_eq_true, Bool.not_eq_true', takesArguments_eq_false,
    List.isEmpty_iff, List.contains_eq_mem, decide_eq_false_iff_not, mem_unionMembers]
  constructor
  · intro fits
    obtain ⟨⟨plain, alone⟩, free⟩ := fits
    exact ⟨plain, alone, fun union member names shape visible listed =>
      free ⟨union, member, names, shape, visible, listed⟩⟩
  · intro fits
    refine ⟨⟨fits.plain, fits.alone⟩, fun taken => ?_⟩
    obtain ⟨union, member, names, shape, visible, listed⟩ := taken
    exact fits.free union member names shape visible listed

end Schema

namespace Schema

variable {schema : Schema} {recordsForced : Bool} {type : SchemaType} {declaration : Declaration}
  {members : Members} {name : String} {width : Nat}

-- A union stands behind its member, another one is introspection's own, and `Query` is a root.
def pressSchema : Schema where
  types := [
    ⟨"Query", .object ⟨[⟨"page", .named "Page", []⟩], []⟩⟩,
    ⟨"Page", .object ⟨[⟨"text", .named "String", []⟩], []⟩⟩,
    ⟨"__Hidden", .union ["Author"]⟩,
    ⟨"Author", .object ⟨[⟨"name", .named "String", []⟩], []⟩⟩,
    ⟨"Found", .union ["Page"]⟩,
    ⟨"__Type", .object ⟨[], []⟩⟩]
  names_nodup := by decide

end Schema

-- What a record keeps of the service class that it stands for: all there is to it.
structure Record.Keeps (record : Record) (service : ServiceClass) : Prop where
  name : record.name = service.name
  opened : record.closed = false
  common : service.distinct = false
  alone : service.includes = []
  getters : ∀ method ∈ service.methods, method.kind = .get ∧ method.params = []
  fields : service.methods.map (fun method => (method.name, method.returns)) =
    record.fields.map fun field => (field.name, field.type)

namespace Schema

def isEligible (schema : Schema) (type : SchemaType) : Bool :=
  match type.shape with
  | .object members => fitsRecord schema.unionMembers type.name members
  | _ => false

-- Two declarations at one position, the first made with records forced. The root contract stands
-- for no type; any other declaration is the same in both unless its type is eligible.
inductive Swaps (schema : Schema) : Declaration → Declaration → Prop where
  | root : Swaps schema (.root contract) (.root contract)
  | same (member : type ∈ schema.types) (named : declaration.name = type.name)
      (unfit : schema.isEligible type = false) : Swaps schema declaration declaration
  | swapped (member : type ∈ schema.types) (named : service.name = type.name)
      (fit : schema.isEligible type = true) (keeps : record.Keeps service) :
      Swaps schema (.record record) (.service service)

variable {schema : Schema} {type : SchemaType} {members : Members} {name : String}

theorem Swaps.name_eq {forced unforced : Declaration} (swaps : schema.Swaps forced unforced) :
    forced.name = unforced.name := by
  cases swaps with
  | root | same => rfl
  | swapped member named fit keeps => exact keeps.name

theorem ownMethods_alone (schema : Schema) (alone : members.interfaces = []) :
    schema.ownMethods members = members.fields.map schema.getter := by
  rw [ownMethods, includes, alone]
  rfl

theorem openRecord_keeps (fits : schema.FitsRecord name members) :
    (schema.openRecord name members).Keeps (schema.serviceClass name members) := by
  have own := schema.ownMethods_alone fits.alone
  refine ⟨rfl, rfl, ?_, ?_, ?_, ?_⟩
  · simp [serviceClass, fits.alone]
  · change schema.includes members = []
    rw [includes, fits.alone]
    rfl
  · intro method listed
    change method ∈ schema.ownMethods members at listed
    rw [own] at listed
    obtain ⟨field, inside, rfl⟩ := List.mem_map.mp listed
    refine ⟨rfl, ?_⟩
    change field.arguments.map schema.typedName = []
    rw [fits.plain field inside]
    rfl
  · change (schema.ownMethods members).map _ = _
    rw [own, openRecord, List.map_map, List.map_map]
    rfl

theorem declaration?_swaps (member : type ∈ schema.types) :
    Option.Rel schema.Swaps (schema.declaration? true type) (schema.declaration? false type) := by
  -- The flag is looked at for eligible objects and for nothing else.
  have unchanged (unfit : schema.isEligible type = false)
      (equal : schema.declaration? false type = schema.declaration? true type) :
      Option.Rel schema.Swaps (schema.declaration? true type) (schema.declaration? false type) := by
    rw [equal]
    cases found : schema.declaration? true type with
    | none => exact .none
    | some declaration =>
      exact .some (.same member (declaration?_exact.mp found).name_eq unfit)
  obtain ⟨name, shape⟩ := type
  cases shape with
  | object members =>
    cases eligible : fitsRecord schema.unionMembers name members with
    | false =>
      refine unchanged eligible ?_
      simp [declaration?, Representation.choose, eligible]
    | true =>
      cases declared : schema.isDeclared name with
      | false =>
        simp only [declaration?, declared]
        exact .none
      | true =>
        simp only [declaration?, declared, Representation.choose, eligible]
        exact .some (.swapped member rfl eligible (openRecord_keeps (fitsRecord_iff.mp eligible)))
  | _ => exact unchanged rfl rfl

theorem declarations_swap (schema : Schema) :
    List.Forall₂ schema.Swaps (schema.declarations true) (schema.declarations false) := by
  rw [declarations_eq_flatMap, declarations_eq_flatMap]
  have kinds : List.Forall₂ Eq Kind.inWritingOrder Kind.inWritingOrder :=
    List.forall₂_same.mpr fun _ _ => rfl
  refine List.rel_flatMap kinds ?_
  intro kind _ rfl
  have types : List.Forall₂ (fun first second => first = second ∧ first ∈ schema.types)
      (schema.types.filter (·.kind = kind)) (schema.types.filter (·.kind = kind)) :=
    List.forall₂_same.mpr fun type kept => ⟨rfl, (List.mem_filter.mp kept).1⟩
  refine List.rel_filterMap ?_ types
  intro type _ ⟨same, member⟩
  rw [← same]
  exact declaration?_swaps member

theorem forced_swaps_eligible (schema : Schema) (root : String) :
    (schema.toModule root true).imports = (schema.toModule root false).imports ∧
    (schema.toModule root true).declarations.map Declaration.name =
      (schema.toModule root false).declarations.map Declaration.name ∧
    List.Forall₂ schema.Swaps (schema.toModule root true).declarations
      (schema.toModule root false).declarations := by
  have swap : List.Forall₂ schema.Swaps (schema.toModule root true).declarations
      (schema.toModule root false).declarations := .cons .root schema.declarations_swap
  refine ⟨rfl, ?_, swap⟩
  rw [← List.forall₂_eq_eq_eq, List.forall₂_map_left_iff, List.forall₂_map_right_iff]
  exact swap.imp fun _ _ swaps => swaps.name_eq

end Schema

end ServiceTypes
