import ServiceTypes.Proofs.Basic
import ServiceTypes.Sdl.Reader

namespace ServiceTypes.Sdl

-- A type as it can be written: an exclamation mark stands behind a name or behind a list, and never
-- behind another one.
inductive TypeExpr.Grammatical : TypeExpr → Prop where
  | named : Grammatical (.named name)
  | list (inside : element.Grammatical) : Grammatical (.list element)
  | namedMarked : Grammatical (.nonNull (.named name))
  | listMarked (inside : element.Grammatical) : Grammatical (.nonNull (.list element))

def ArgumentDefinition.Grammatical (definition : ArgumentDefinition) : Prop :=
  definition.type.Grammatical

structure FieldDefinition.Grammatical (definition : FieldDefinition) : Prop where
  arguments : ∀ argument ∈ definition.arguments, argument.Grammatical
  type : definition.type.Grammatical

def DefinitionBody.Grammatical : DefinitionBody → Prop
  | object _ fields | interface _ fields => ∀ field ∈ fields, field.Grammatical
  | inputObject fields => ∀ field ∈ fields, field.Grammatical
  | enum _ | union _ | scalar => True

def Definition.Grammatical : Definition → Prop
  | type definition => definition.body.Grammatical
  | roots _ | extension _ | directive _ _ => True

def Document.Grammatical (document : Document) : Prop :=
  ∀ definition ∈ document, definition.Grammatical

namespace Reader

-- What a reader makes is good, whatever it is made from. Nothing is said of texts that are refused.
def Yields {α : Type} (reader : Reader α) (good : α → Prop) : Prop :=
  ∀ lexemes answer behind, reader.run lexemes = .ok (answer, behind) → good answer

variable {α β : Type} {reader item : Reader α} {act : α → Reader β} {good : α → Prop}
  {better : β → Prop}

theorem yields_pure {answer : α} (holds : good answer) : Yields (pure answer) good := by
  intro lexemes made behind read
  cases read
  exact holds

theorem yields_throw (position : Position) : Yields (throw position : Reader α) good := by
  intro lexemes made behind read
  cases read

theorem Yields.bind (first : reader.Yields good)
    (next : ∀ answer, good answer → (act answer).Yields better) :
    (reader >>= act).Yields better := by
  intro lexemes made behind read
  rw [StateT.run_bind, bind_eq_ok] at read
  obtain ⟨⟨answer, middle⟩, early, late⟩ := read
  exact next answer (first lexemes answer middle early) middle made behind late

theorem yields_after (next : ∀ answer, (act answer).Yields better) :
    (reader >>= act).Yields better :=
  have anything : reader.Yields fun _ => True := fun _ _ _ _ => trivial
  anything.bind fun answer _ => next answer

theorem yields_fail : (fail : Reader α).Yields good :=
  yields_after yields_throw

theorem yields_many {starts : Token → Bool} (each : item.Yields good) :
    Yields (many starts item) fun answers => ∀ answer ∈ answers, good answer := by
  intro lexemes
  change ∀ made behind, many starts item lexemes = .ok (made, behind) → _
  -- Induction along the items: each leaves fewer tokens, and the last one ends the list.
  fun_induction many starts item lexemes with
  | case1 | case6 =>
    intro made behind read
    cases read
    exact nofun
  | case2 | case3 =>
    intro made behind read
    cases read
  | case4 lexemes _ _ _ first middle read _ items _ _ ih =>
    intro made behind done
    cases done
    exact List.forall_mem_cons.mpr ⟨each lexemes first middle read, ih items _ ‹_›⟩
  | case5 lexemes _ _ _ first middle read =>
    intro made behind done
    cases done
    exact List.forall_mem_singleton.mpr (each lexemes first middle read)

theorem yields_many1 {starts : Token → Bool} (each : item.Yields good) :
    (many1 starts item).Yields fun answers => ∀ answer ∈ answers, good answer :=
  each.bind fun _ first => (yields_many each).bind fun _ others =>
    yields_pure (List.forall_mem_cons.mpr ⟨first, others⟩)

theorem yields_enclosed {opening closing : Char} {inner : Nat → Reader α}
    (inside : ∀ room, (inner room).Yields good) (room : Nat) :
    (enclosed opening closing room inner).Yields good := by
  cases room with
  | zero => exact yields_fail
  | succ room =>
    exact yields_after fun _ => (inside room).bind fun _ holds =>
      yields_after fun _ => yields_pure holds

theorem yields_enclosedList {opening closing : Char} {inner : Nat → Reader (List α)}
    (inside : ∀ room, (inner room).Yields fun answers => ∀ answer ∈ answers, good answer)
    (room : Nat) :
    (enclosedList opening closing room inner).Yields
      fun answers => ∀ answer ∈ answers, good answer := by
  refine yields_after fun token => ?_
  split
  · exact yields_enclosed inside room
  · exact yields_pure nofun

theorem marked_grammatical {type : TypeExpr} (bare : type.Grammatical)
    (required : TypeExpr.Grammatical (.nonNull type)) :
    (marked type).Yields TypeExpr.Grammatical := by
  refine yields_after fun isMarked => ?_
  split
  · exact yields_pure required
  · exact yields_pure bare

theorem type_grammatical (room : Nat) : (type room).Yields TypeExpr.Grammatical := by
  induction room with
  | zero => exact yields_after fun _ => marked_grammatical .named .namedMarked
  | succ room ih =>
    refine yields_after fun isList => ?_
    split
    · exact ih.bind fun _ inside => yields_after fun _ =>
        marked_grammatical (.list inside) (.listMarked inside)
    · exact yields_after fun _ => marked_grammatical .named .namedMarked

theorem argument_grammatical (room : Nat) :
    (argument room).Yields ArgumentDefinition.Grammatical := by
  refine yields_after fun _ => yields_after fun name => yields_after fun _ => ?_
  refine (type_grammatical room).bind fun type written => yields_after fun hasDefault => ?_
  have made : Yields (directives room >>= fun _ => pure (ArgumentDefinition.mk name type))
      ArgumentDefinition.Grammatical := yields_after fun _ => yields_pure written
  dsimp only
  split
  · exact yields_after fun _ => made
  · exact made

theorem arguments_grammatical (opening closing : Char) (room : Nat) :
    (enclosedList opening closing room fun room => many1 isDescribed (argument room)).Yields
      fun definitions => ∀ definition ∈ definitions, definition.Grammatical :=
  yields_enclosedList (fun room => yields_many1 (argument_grammatical room)) room

theorem field_grammatical (room : Nat) : (field room).Yields FieldDefinition.Grammatical := by
  refine yields_after fun _ => yields_after fun name => ?_
  refine (arguments_grammatical '(' ')' room).bind fun arguments listed => yields_after fun _ => ?_
  refine (type_grammatical room).bind fun type written => yields_after fun _ => ?_
  exact yields_pure ⟨listed, written⟩

theorem fields_grammatical (room : Nat) : (fields room).Yields fun definitions =>
    ∀ definition ∈ definitions, definition.Grammatical :=
  yields_enclosedList (fun room => yields_many1 (field_grammatical room)) room

theorem typeDefinition_grammatical (room : Nat) :
    (typeDefinition room).Yields fun definition => definition.body.Grammatical := by
  refine yields_after fun token => ?_
  lift_lets
  intro ofKind
  have each : ∀ kind, (ofKind kind).Yields fun definition => definition.body.Grammatical := by
    intro kind
    dsimp only [ofKind]
    split
    -- In the order of the words: objects, interfaces, unions, enums, input objects and scalars.
    · refine yields_after fun _ => yields_after fun name => yields_after fun interfaces => ?_
      refine yields_after fun directives => (fields_grammatical room).bind fun fields listed => ?_
      exact yields_pure listed
    · refine yields_after fun _ => yields_after fun name => yields_after fun interfaces => ?_
      refine yields_after fun directives => (fields_grammatical room).bind fun fields listed => ?_
      exact yields_pure listed
    · refine yields_after fun _ => yields_after fun name => yields_after fun directives => ?_
      exact yields_after fun members => yields_pure trivial
    · refine yields_after fun _ => yields_after fun name => yields_after fun directives => ?_
      exact yields_after fun values => yields_pure trivial
    · refine yields_after fun _ => yields_after fun name => yields_after fun directives => ?_
      refine (arguments_grammatical '{' '}' room).bind fun fields listed => ?_
      exact yields_pure listed
    · refine yields_after fun _ => yields_after fun name => yields_after fun directives => ?_
      exact yields_pure trivial
    · exact yields_fail
  split
  · exact yields_after each
  · exact yields_after each

theorem schemaBlock_grammatical (room : Nat) :
    (schemaBlock room).Yields Definition.Grammatical := by
  refine yields_after fun start => yields_after fun _ => yields_after fun _ => ?_
  refine yields_after fun assignments => ?_
  split
  · exact yields_pure trivial
  · exact yields_throw start

theorem extension_grammatical (room : Nat) : (extension room).Yields Definition.Grammatical := by
  refine yields_after fun _ => yields_after fun start => yields_after fun type => ?_
  dsimp only
  split
  · exact yields_after fun _ => yields_pure trivial
  · exact yields_pure trivial

theorem directiveDefinition_grammatical (room : Nat) :
    (directiveDefinition room).Yields Definition.Grammatical := by
  refine yields_after fun _ => yields_after fun _ => yields_after fun directive => ?_
  refine yields_after fun arguments => yields_after fun repeatable => ?_
  lift_lets
  intro finished located
  have each : (located ()).Yields Definition.Grammatical := by
    refine yields_after fun _ => yields_after fun token => ?_
    split
    · exact yields_after fun _ => yields_pure trivial
    · exact yields_pure trivial
  split
  · exact yields_after fun _ => each
  · exact each

theorem definition_grammatical (room : Nat) : (definition room).Yields Definition.Grammatical := by
  refine yields_after fun isSchema => ?_
  split
  · exact schemaBlock_grammatical room
  refine yields_after fun isExtension => ?_
  split
  · exact extension_grammatical room
  refine yields_after fun _ => yields_after fun isDirective => ?_
  split
  · exact directiveDefinition_grammatical room
  · exact (typeDefinition_grammatical room).bind fun _ written => yields_pure written

theorem document_grammatical : document.Yields Document.Grammatical := by
  refine (yields_many1 (definition_grammatical maxOpenBrackets)).bind fun definitions written => ?_
  refine yields_after fun lexemes => ?_
  split
  · exact yields_pure written
  · exact yields_fail

end Reader

theorem Document.ofText_grammatical {text : String} {document : Document}
    (read : Document.ofText text = .ok document) : document.Grammatical := by
  unfold Document.ofText at read
  split at read
  · rename_i made behind accepted
    cases read
    exact Reader.document_grammatical _ _ _ accepted
  · cases read

end ServiceTypes.Sdl
