import ServiceTypes.Proofs.Dependence

namespace ServiceTypes

-- The names by which a type asks for others. Members of a union are not asked for: they are copied.
def Shape.mentions (shape : Shape) : List String :=
  shape.typeRefs.map TypeRef.target ++ shape.interfaces

theorem Shape.mentions_target {shape : Shape} {reference : TypeRef}
    (within : reference ∈ shape.typeRefs) : reference.target ∈ shape.mentions :=
  List.mem_append_left _ (List.mem_map_of_mem within)

theorem Shape.mentions_interface {shape : Shape} {name : String} (listed : name ∈ shape.interfaces) :
    name ∈ shape.mentions :=
  List.mem_append_right _ listed

namespace Schema

variable {schema : Schema} {type other : SchemaType} {name : String}

theorem insert_declares (schema : Schema) (type : SchemaType) :
    (schema.insert type).declares = schema.declares := rfl

theorem declared_names_except (schema : Schema) (recordsForced : Bool) (name : String) :
    ((schema.declarations recordsForced).map Declaration.name).filter (· ≠ name) =
      Kind.inWritingOrder.flatMap fun kind =>
        (((schema.types.filter (·.name ≠ name)).filter (·.kind = kind)).filter schema.declares).map
          SchemaType.name := by
  rw [declarations_eq_flatMap, List.map_flatMap, List.filter_flatMap]
  refine List.flatMap_congr fun kind _ => ?_
  rw [declaration_names, List.filter_map]
  simp only [List.filter_filter]
  refine congrArg _ (List.filter_congr fun type _ => ?_)
  simp only [Function.comp_apply, Bool.and_comm, Bool.and_left_comm]

theorem targetDescriptor_insert_of_ne (differs : name ≠ type.name) :
    (schema.insert type).targetDescriptor name = schema.targetDescriptor name := by
  rw [targetDescriptor, targetDescriptor, kind?, kind?, get?_insert_of_ne differs]

theorem interface?_insert_of_ne (differs : name ≠ type.name) :
    (schema.insert type).interface? name = schema.interface? name := by
  rw [interface?, interface?, get?_insert_of_ne differs]

theorem object?_insert_of_ne (differs : name ≠ type.name) :
    (schema.insert type).object? name = schema.object? name := by
  rw [object?, object?, get?_insert_of_ne differs]

theorem mem_unionMembers_insert (unlisted : name ∉ type.shape.unionMembers)
    (before : ∀ old, schema.get? type.name = some old → name ∉ old.shape.unionMembers) :
    name ∈ (schema.insert type).unionMembers ↔ name ∈ schema.unionMembers := by
  constructor
  · apply mem_unionMembers_of_kept
    intro union member listed
    rcases mem_place member with rfl | old
    · exact absurd listed unlisted
    · exact old
  · apply mem_unionMembers_of_kept
    intro union member listed
    by_cases same : union.name = type.name
    · exact absurd listed (before union (get?_eq_some.mpr ⟨member, same⟩))
    · exact (mem_insert_of_ne same).mpr member

theorem agreeOn_insert (unmentioned : type.name ∉ other.shape.mentions)
    (unlisted : other.name ∉ type.shape.unionMembers)
    (before : ∀ old, schema.get? type.name = some old → other.name ∉ old.shape.unionMembers) :
    AgreeOn (schema.insert type) schema other where
  declared := rfl
  references := by
    intro reference within
    apply describe_congr
    apply targetDescriptor_insert_of_ne
    intro same
    exact unmentioned (same ▸ Shape.mentions_target within)
  interfaces := by
    intro name listed
    apply interface?_insert_of_ne
    intro same
    exact unmentioned (same ▸ Shape.mentions_interface listed)
  unions := mem_unionMembers_insert unlisted before

theorem rootContract_insert (uncalled : schema.isRoot type.name = false)
    (unmentioned : ∀ object ∈ schema.types, schema.isRootObject object = true →
      type.name ∉ object.shape.mentions) (root : String) :
    (schema.insert type).rootContract root = schema.rootContract root := by
  have apart : ∀ name, schema.isRoot name = true → name ≠ type.name := by
    intro name called same
    rw [same, uncalled] at called
    cases called
  -- Roots are objects of other names, so they are found as before.
  have objects : ∀ name, schema.isRoot name = true →
      (schema.insert type).object? name = schema.object? name :=
    fun name called => object?_insert_of_ne (apart name called)
  have roots : (schema.insert type).roots = schema.roots := rfl
  refine rootContract_congr roots objects ?_ root
  intro name called members found reference within
  rw [objects name called] at found
  have member := object?_eq_some.mp found
  have silent : type.name ∉ (Shape.object members).mentions := by
    apply unmentioned _ member
    rw [isRootObject_of_object member rfl]
    exact called
  apply describe_congr
  apply targetDescriptor_insert_of_ne
  intro same
  exact silent (same ▸ Shape.mentions_target within)

-- An edit shows in the declaration of the type itself, in those of types that mention it and in
-- those of objects whose place in a union it changes. All others stay, and in their order.
theorem insert_local (schema : Schema) (type : SchemaType) (recordsForced : Bool) :
    (((schema.insert type).declarations recordsForced).map Declaration.name).filter
        (· ≠ type.name) =
      ((schema.declarations recordsForced).map Declaration.name).filter (· ≠ type.name) ∧
    (∀ other ∈ schema.types, other.name ≠ type.name → type.name ∉ other.shape.mentions →
      other.name ∉ type.shape.unionMembers →
      (∀ old, schema.get? type.name = some old → other.name ∉ old.shape.unionMembers) →
      ((schema.insert type).declarations recordsForced).filter (·.name = other.name) =
        (schema.declarations recordsForced).filter (·.name = other.name)) ∧
    (schema.isRoot type.name = false →
      (∀ object ∈ schema.types, schema.isRootObject object = true →
        type.name ∉ object.shape.mentions) →
      ∀ root, (schema.insert type).rootContract root = schema.rootContract root) := by
  refine ⟨?_, ?_, rootContract_insert⟩
  · rw [declared_names_except, declared_names_except, insert_others, insert_declares]
  · intro other member differs unmentioned unlisted before
    have kept : other ∈ (schema.insert type).types := (mem_insert_of_ne differs).mpr member
    rw [filter_name_declarations kept, filter_name_declarations member,
      (agreeOn_insert unmentioned unlisted before).declaration?_eq]

def depotSchema : Schema where
  types := [
    ⟨"Query", .object ⟨[⟨"pallets", .list (.named "Pallet"), [⟨"id", .named "ID"⟩]⟩], []⟩⟩,
    ⟨"Part", .object ⟨[⟨"label", .named "String", []⟩], []⟩⟩,
    ⟨"Found", .union ["Part", "Crate"]⟩,
    ⟨"Crate", .object ⟨[⟨"found", .nonNull (.list (.named "Found")), []⟩], []⟩⟩,
    ⟨"Pallet", .object ⟨[⟨"crates", .list (.named "Crate"), []⟩], []⟩⟩]
  names_nodup := by decide

def foundInterface : SchemaType := ⟨"Found", .interface ⟨[⟨"at", .named "Pallet", []⟩], []⟩⟩

theorem depot_edit_local :
    (((depotSchema.insert foundInterface).declarations true).map Declaration.name).filter
        (· ≠ "Found") =
      ((depotSchema.declarations true).map Declaration.name).filter (· ≠ "Found") ∧
    ((depotSchema.insert foundInterface).declarations true).filter (·.name = "Pallet") =
      (depotSchema.declarations true).filter (·.name = "Pallet") ∧
    (depotSchema.insert foundInterface).rootContract "Depot" = depotSchema.rootContract "Depot" ∧
    ((depotSchema.insert foundInterface).declarations true).filter (·.name = "Part") ≠
      (depotSchema.declarations true).filter (·.name = "Part") := by
  obtain ⟨names, others, contract⟩ := insert_local depotSchema foundInterface true
  refine ⟨names, ?_, ?_, by decide⟩
  · exact others ⟨"Pallet", .object ⟨[⟨"crates", .list (.named "Crate"), []⟩], []⟩⟩
      (by decide) (by decide) (by decide) (by decide) (by decide)
  · exact contract (by decide) (by decide) "Depot"

end Schema

end ServiceTypes
