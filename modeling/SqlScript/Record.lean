import SqlScript.Json
import SqlScript.Yaml.Scalar

/-!
Records of named fields, and lists of them in JSON and in YAML.
-/

namespace SqlScript

open Text

inductive Field where
  | text (value : Text)
  | number (value : Nat)
  | texts (values : List Text)
deriving DecidableEq, Repr

abbrev Record := List (Text × Field)

def Field.toJson : Field → Json
  | .text value => .string value
  | .number value => .number value
  | .texts values => .array (values.map .string)

def Record.toJson (record : Record) : Json :=
  .object (record.map fun (name, field) => (name, field.toJson))

def Record.listJson (records : List Record) : Text := (Json.array (records.map toJson)).render

/-- The value of a field in YAML, from the space or line end after its colon. -/
def Field.yaml : Field → Text
  | .text value => ' ' :: Yaml.scalar "    " value
  | .number value => ' ' :: ofNat value ++ ['\n']
  | .texts [] => " []\n"
  | .texts values => '\n' :: values.flatMap fun value => "  - ".toList ++ Yaml.scalar "    " value

/-- A record in YAML, as an item of a list. -/
def Record.yaml (record : Record) : Text :=
  match record.map fun (name, field) => name ++ ':' :: field.yaml with
  | [] => "- \x7b\x7d\n"
  | first :: others => "- ".toList ++ first ++ others.flatMap ("  ".toList ++ ·)

def Record.listYaml : List Record → Text
  | [] => "[]\n"
  | records => records.flatMap yaml

end SqlScript
