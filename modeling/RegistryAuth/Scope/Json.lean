import RegistryAuth.Json.Reading
import RegistryAuth.Scope

/-! # Scopes in JSON

A scope as an entry of an access claim: an object with the resource's type and
name and the list of actions. Reading takes the actions as they are.
-/

namespace RegistryAuth.Scope

def toJson (scope : Scope) : Json :=
  .object [("type", .string scope.resourceType), ("name", .string scope.resourceName),
    ("actions", Json.ofStrings scope.actions)]

def reader : JsonReader Scope :=
  RecordReader.toReader "Scope" <|
    Scope.mk
      <$> RecordReader.required "type" JsonReader.text
      <*> RecordReader.required "name" JsonReader.text
      <*> RecordReader.required "actions" (JsonReader.list JsonReader.text)

end RegistryAuth.Scope
