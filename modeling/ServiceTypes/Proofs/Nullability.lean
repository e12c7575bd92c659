import ServiceTypes.Proofs.MethodKinds

namespace ServiceTypes

inductive Wrapper where
  | list | nonNull
  deriving DecidableEq

namespace TypeRef

def wrappers : TypeRef → List Wrapper
  | named _ => []
  | list element => .list :: element.wrappers
  | nonNull inner => .nonNull :: inner.wrappers

-- The same reference without `nonNull` right inside `nonNull`.
def collapsed : TypeRef → TypeRef
  | named name => named name
  | list element => list element.collapsed
  | nonNull inner => inner.collapsed.required

def ofWrappers (name : String) : List Wrapper → TypeRef
  | [] => named name
  | .list :: rest => list (ofWrappers name rest)
  | .nonNull :: rest => nonNull (ofWrappers name rest)

variable {name : String}

@[simp] theorem ofWrappers_wrappers (layers : List Wrapper) :
    (ofWrappers name layers).wrappers = layers := by
  induction layers with
  | nil => rfl
  | cons layer rest ih => cases layer <;> simp [ofWrappers, wrappers, ih]

@[simp] theorem ofWrappers_target (layers : List Wrapper) :
    (ofWrappers name layers).target = name := by
  induction layers with
  | nil => rfl
  | cons layer rest ih => cases layer <;> simpa [ofWrappers, target] using ih

theorem required_required (reference : TypeRef) : reference.required.required = reference.required := by
  cases reference <;> rfl

theorem collapsed_target (reference : TypeRef) : reference.collapsed.target = reference.target := by
  have required (other : TypeRef) : other.required.target = other.target := by
    cases other <;> rfl
  induction reference with
  | named name => rfl
  | list element ih => exact ih
  | nonNull inner ih => rw [collapsed, required, ih, target]

def collapsedUnder (nonNull : Bool) (reference : TypeRef) : TypeRef :=
  if nonNull then reference.collapsed.required else reference.collapsed

theorem collapsedUnder_nonNull (flag : Bool) (inner : TypeRef) :
    collapsedUnder flag (nonNull inner) = collapsedUnder true inner := by
  cases flag with
  | false => rfl
  | true => exact required_required inner.collapsed

end TypeRef

namespace Descriptor

def leaf : Descriptor → Descriptor
  | array inner | optional inner | stream inner => inner.leaf
  | descriptor => descriptor

def NullableOnce : Descriptor → Prop
  | optional inner => inner.isOptional = false ∧ inner.NullableOnce
  | array inner | stream inner => inner.NullableOnce
  | _ => True

-- The wrappers that a written type stands for. The flag says that it is read from under an option:
-- everywhere else, what is no option is meant to be non-null.
def wrappers (nullable : Bool) : Descriptor → List Wrapper
  | optional inner => inner.wrappers true
  | array element =>
    (if nullable then [] else [.nonNull]) ++ .list :: element.wrappers false
  | _ => if nullable then [] else [.nonNull]

def wrapped (leaf : Descriptor) (nonNull : Bool) : List Wrapper → Descriptor
  | [] => leaf.nullableUnless nonNull
  | .list :: rest => (array (leaf.wrapped false rest)).nullableUnless nonNull
  | .nonNull :: rest => leaf.wrapped true rest

variable {descriptor : Descriptor}

@[simp] theorem leaf_nullableUnless (nonNull : Bool) (descriptor : Descriptor) :
    (descriptor.nullableUnless nonNull).leaf = descriptor.leaf := by
  cases nonNull <;> rfl

theorem wrappers_nullableUnless (nonNull : Bool) (descriptor : Descriptor) :
    (descriptor.nullableUnless nonNull).wrappers false = descriptor.wrappers !nonNull := by
  cases nonNull <;> rfl

theorem nullableOnce_nullableUnless (nonNull : Bool) (bare : descriptor.isOptional = false)
    (once : descriptor.NullableOnce) : (descriptor.nullableUnless nonNull).NullableOnce := by
  cases nonNull with
  | false => exact ⟨bare, once⟩
  | true => exact once

theorem wrapped_wrappers (streamless : descriptor.Streamless) (once : descriptor.NullableOnce) :
    descriptor.leaf.wrapped false (descriptor.wrappers false) = descriptor := by
  -- Under an option stands no further one, so the induction says apart what becomes of a
  -- descriptor there.
  suffices restored : descriptor.leaf.wrapped false (descriptor.wrappers false) = descriptor ∧
      (descriptor.isOptional = false → ∀ nonNull,
        descriptor.leaf.wrapped nonNull (descriptor.wrappers true) =
          descriptor.nullableUnless nonNull) from restored.1
  induction streamless with
  | primitive | named => exact ⟨rfl, fun _ _ => rfl⟩
  | @array element streamless ih =>
    have inside := (ih once).1
    have under (nonNull : Bool) : element.leaf.wrapped nonNull (.list :: element.wrappers false) =
        (Descriptor.array element).nullableUnless nonNull := by
      rw [wrapped, inside]
    exact ⟨under true, fun _ => under⟩
  | @optional inner streamless ih =>
    obtain ⟨bare, once⟩ := once
    exact ⟨(ih once).2 bare false, nofun⟩

end Descriptor

namespace Schema

theorem targetDescriptor_bare (schema : Schema) (name : String) :
    (schema.targetDescriptor name).isOptional = false ∧
      (schema.targetDescriptor name).NullableOnce ∧
      (schema.targetDescriptor name).leaf = schema.targetDescriptor name ∧
      ∀ nullable, (schema.targetDescriptor name).wrappers nullable =
        if nullable then [] else [.nonNull] := by
  unfold targetDescriptor
  split <;> exact ⟨rfl, trivial, rfl, fun _ => rfl⟩

theorem descriptor_eq_wrapped (schema : Schema) (nonNull : Bool) (reference : TypeRef) :
    schema.descriptor nonNull reference =
      (schema.targetDescriptor reference.target).wrapped nonNull reference.wrappers := by
  induction reference generalizing nonNull with
  | named name => rfl
  | list element ih => rw [descriptor, ih, TypeRef.wrappers, Descriptor.wrapped, TypeRef.target]
  | nonNull inner ih => exact ih true

theorem descriptor_required (schema : Schema) (nonNull : Bool) (reference : TypeRef) :
    schema.descriptor nonNull reference.required = schema.descriptor true reference := by
  cases reference <;> rfl

theorem descriptor_collapsed (schema : Schema) (nonNull : Bool) (reference : TypeRef) :
    schema.descriptor nonNull reference.collapsed = schema.descriptor nonNull reference := by
  induction reference generalizing nonNull with
  | named name => rfl
  | list element ih => rw [TypeRef.collapsed, descriptor, ih, descriptor]
  | nonNull inner ih => rw [TypeRef.collapsed, descriptor_required, ih, descriptor]

theorem leaf_descriptor (schema : Schema) (nonNull : Bool) (reference : TypeRef) :
    (schema.descriptor nonNull reference).leaf = schema.targetDescriptor reference.target := by
  induction reference generalizing nonNull with
  | named name =>
    rw [descriptor, Descriptor.leaf_nullableUnless]
    exact (schema.targetDescriptor_bare name).2.2.1
  | list element ih =>
    rw [descriptor, Descriptor.leaf_nullableUnless]
    exact ih false
  | nonNull inner ih => exact ih true

theorem nullableOnce_descriptor (schema : Schema) (nonNull : Bool) (reference : TypeRef) :
    (schema.descriptor nonNull reference).NullableOnce := by
  induction reference generalizing nonNull with
  | named name =>
    obtain ⟨bare, once, -⟩ := schema.targetDescriptor_bare name
    exact Descriptor.nullableOnce_nullableUnless nonNull bare once
  | list element ih => exact Descriptor.nullableOnce_nullableUnless nonNull rfl (ih false)
  | nonNull inner ih => exact ih true

theorem wrappers_descriptor (schema : Schema) (nonNull : Bool) (reference : TypeRef) :
    (schema.descriptor nonNull reference).wrappers false =
      (reference.collapsedUnder nonNull).wrappers := by
  induction reference generalizing nonNull with
  | named name =>
    rw [descriptor, Descriptor.wrappers_nullableUnless, (schema.targetDescriptor_bare name).2.2.2]
    cases nonNull <;> rfl
  | list element ih =>
    rw [descriptor, Descriptor.wrappers_nullableUnless, Descriptor.wrappers, ih]
    cases nonNull <;> rfl
  | nonNull inner ih => rw [descriptor, ih, TypeRef.collapsedUnder_nonNull]

-- Two references are written alike if they differ in repeated `nonNull` and in names that stand for
-- the same primitive, and only then.
theorem describe_lossless (schema : Schema) :
    (∀ first second, schema.describe first = schema.describe second ↔
      first.collapsed.wrappers = second.collapsed.wrappers ∧
        schema.targetDescriptor first.target = schema.targetDescriptor second.target) ∧
    ∀ descriptor, (∃ reference, schema.describe reference = descriptor) ↔
      descriptor.Streamless ∧ descriptor.NullableOnce ∧
        ∃ name, descriptor.leaf = schema.targetDescriptor name := by
  constructor
  · intro first second
    constructor
    · intro same
      constructor
      · have layers := congrArg (Descriptor.wrappers false) same
        rwa [describe, describe, wrappers_descriptor, wrappers_descriptor] at layers
      · have leaves := congrArg Descriptor.leaf same
        rwa [describe, describe, leaf_descriptor, leaf_descriptor] at leaves
    · rintro ⟨layers, targets⟩
      calc schema.describe first
        _ = (schema.targetDescriptor first.target).wrapped false first.collapsed.wrappers := by
          rw [describe, ← descriptor_collapsed, descriptor_eq_wrapped, TypeRef.collapsed_target]
        _ = (schema.targetDescriptor second.target).wrapped false second.collapsed.wrappers := by
          rw [layers, targets]
        _ = schema.describe second := by
          rw [describe, ← descriptor_collapsed, descriptor_eq_wrapped, TypeRef.collapsed_target]
  · intro descriptor
    constructor
    · rintro ⟨reference, rfl⟩
      exact ⟨schema.streamless_describe reference, schema.nullableOnce_descriptor false reference,
        reference.target, schema.leaf_descriptor false reference⟩
    · rintro ⟨streamless, once, name, leaf⟩
      refine ⟨.ofWrappers name (descriptor.wrappers false), ?_⟩
      rw [describe, descriptor_eq_wrapped, TypeRef.ofWrappers_wrappers, TypeRef.ofWrappers_target,
        ← leaf]
      exact Descriptor.wrapped_wrappers streamless once

example :
    let matrix (outer middle innermost : TypeRef → TypeRef) : Descriptor :=
      Schema.empty.describe (outer (.list (middle (.list (innermost (.named "T"))))))
    matrix .nonNull id id ≠ matrix id .nonNull id ∧
      matrix id .nonNull id ≠ matrix id id .nonNull ∧
      matrix .nonNull id id = matrix (fun inner => .nonNull (.nonNull inner)) id id := by
  decide

end Schema

end ServiceTypes
