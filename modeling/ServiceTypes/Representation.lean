import ServiceTypes.Name
import ServiceTypes.Schema

namespace ServiceTypes

inductive Representation where
  | record | service
  deriving DecidableEq

-- A record loses nothing of an object without arguments that implements nothing and stands in no
-- union.
def fitsRecord (unionMembers : List String) (name : String) (members : Members) : Bool :=
  !members.takesArguments && members.interfaces.isEmpty && !unionMembers.contains name

def Representation.choose (recordsForced : Bool) (unionMembers : List String) (name : String)
    (members : Members) : Representation :=
  if recordsForced && fitsRecord unionMembers name members then record else service

def Representation.label : Representation → String
  | record => "record"
  | service => "service"

def padded (width : Nat) (text : String) : String :=
  text ++ String.ofList (List.replicate (width - text.length) ' ')

-- The width is the bytes of the longest name, and padding counts characters. No name has more
-- characters than bytes, so the labels line up.
def nameWidth (representations : List (String × Representation)) : Nat :=
  representations.foldl (fun width entry => max width entry.1.utf8ByteSize) 0

def reportLine (width : Nat) (entry : String × Representation) : String :=
  padded width entry.1 ++ "  " ++ entry.2.label ++ "\n"

-- A width is a number of 16 bits.
def maxWidth : Nat := 65535

inductive WidthError where
  | outOfRange
  deriving DecidableEq

def WidthError.message : WidthError → String
  | outOfRange => "Formatting argument out of range"

namespace Schema

def unionMembers (schema : Schema) : List String :=
  schema.types.flatMap fun type => match type.shape with
    | .union members => if isIntrospective type.name then [] else members
    | _ => []

def isDeclared (schema : Schema) (name : String) : Bool :=
  !isIntrospective name && !schema.isRoot name

def representations (schema : Schema) (recordsForced : Bool) : List (String × Representation) :=
  let unionMembers := schema.unionMembers
  schema.types.filterMap fun type => match type.shape with
    | .object members =>
      if schema.isDeclared type.name then
        some (type.name, .choose recordsForced unionMembers type.name members)
      else none
    | _ => none

def report (schema : Schema) (recordsForced : Bool) : Except WidthError String :=
  let representations := schema.representations recordsForced
  let width := nameWidth representations
  if maxWidth < width then .error .outOfRange
  else .ok (String.join (representations.map (reportLine width)))

end Schema

end ServiceTypes
