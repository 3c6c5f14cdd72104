/-
JSON schemas. A schema is a list of keywords, all of which a value has to satisfy; a schema without keywords that
constrain anything admits every value. Schemas refer to each other by the names of a document's definitions.
-/
import ProcessBuild.Json.Value

namespace ProcessBuild

inductive JsonType where
  | null
  | boolean
  | integer
  | string
  | array
  | object
  deriving DecidableEq, Repr

def JsonType.name : JsonType → String
  | null => "null"
  | boolean => "boolean"
  | integer => "integer"
  | string => "string"
  | array => "array"
  | object => "object"

mutual

inductive Schema where
  | mk (keywords : List Keyword)

inductive Keyword where
  /-- what the value means -/
  | description (text : String)
  /-- the value that stands for an absent one -/
  | default (value : Json)
  /-- the name of a range of numbers -/
  | format (name : String)
  /-- the type, or one of several types -/
  | types (types : List JsonType)
  /-- the value is one of some texts -/
  | oneText (texts : List String)
  /-- a number is at least this -/
  | minimum (bound : JsonNumber)
  /-- members of an object -/
  | properties (schemas : List (String × Schema))
  /-- members that an object has -/
  | required (names : List String)
  /-- the members of an object that are not among its properties -/
  | otherProperties (schema : Schema)
  /-- the elements of a list -/
  | items (schema : Schema)
  /-- every schema of a list admits the value -/
  | allOf (schemas : List Schema)
  /-- some schema of a list admits the value -/
  | anyOf (schemas : List Schema)
  /-- exactly one schema of a list admits the value -/
  | oneOf (schemas : List Schema)
  /-- a definition admits the value -/
  | definition (name : String)

end

instance : Inhabited Schema := ⟨.mk []⟩

/-- the types of a value as JSON: a name, or a list of names -/
def JsonType.listToJson : List JsonType → Json
  | [t] => .string t.name
  | ts => Json.ofStrings (ts.map name)

mutual

def Schema.toJson : Schema → Json
  | .mk keywords => Json.ofMembers (Keyword.members keywords)

def Keyword.members : List Keyword → List (String × Json)
  | [] => []
  | k :: rest => k.member :: Keyword.members rest

def Keyword.member : Keyword → String × Json
  | .description text => ("description", .string text)
  | .default value => ("default", value)
  | .format name => ("format", .string name)
  | .types types => ("type", JsonType.listToJson types)
  | .oneText texts => ("enum", Json.ofStrings texts)
  | .minimum bound => ("minimum", .number bound)
  | .properties schemas => ("properties", Json.ofMembers (Schema.namedToJson schemas))
  | .required names => ("required", Json.ofStrings names)
  | .otherProperties schema => ("additionalProperties", schema.toJson)
  | .items schema => ("items", schema.toJson)
  | .allOf schemas => ("allOf", .array (Schema.listToJson schemas))
  | .anyOf schemas => ("anyOf", .array (Schema.listToJson schemas))
  | .oneOf schemas => ("oneOf", .array (Schema.listToJson schemas))
  | .definition name => ("$ref", .string ("#/definitions/" ++ name))

def Schema.listToJson : List Schema → List Json
  | [] => []
  | s :: rest => s.toJson :: Schema.listToJson rest

def Schema.namedToJson : List (String × Schema) → List (String × Json)
  | [] => []
  | p :: rest => Schema.pairToJson p :: Schema.namedToJson rest

def Schema.pairToJson : String × Schema → String × Json
  | (name, s) => (name, s.toJson)

end

/-- a schema with the definitions that it refers to -/
structure SchemaDocument where
  title : String
  root : Schema
  definitions : List (String × Schema)

namespace SchemaDocument

/-- the edition of the rules that the keywords follow -/
def dialect : String := "http://json-schema.org/draft-07/schema#"

def definition? (d : SchemaDocument) (name : String) : Option Schema :=
  (d.definitions.find? (·.1 = name)).map Prod.snd

def toJson (d : SchemaDocument) : Json :=
  match d.root with
  | .mk keywords =>
    Json.ofMembers ([("$schema", .string dialect), ("title", .string d.title),
      ("definitions", Json.ofMembers (Schema.namedToJson d.definitions))] ++ Keyword.members keywords)

end SchemaDocument

end ProcessBuild
