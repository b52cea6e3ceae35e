import CommandGrammar.Config.Layers
import CommandGrammar.Shell.Yaml.Document
import CommandGrammar.Shell.Yaml.Mapping

/-!
# Configurations as YAML

A document is a mapping with a list of commands, each with a name, a grammar and maybe a
description. Other keys are passed over. An empty document configures nothing.
-/

set_option autoImplicit false

namespace CommandGrammar

namespace Yaml

def text (y : Yaml) : Except Fault String :=
  if y.isNull then .error .shape
  else match y with
    | scalar _ text => .ok text
    | _ => .error .shape

def optional {α : Type} (read : Yaml → Except Fault α) (y : Yaml) : Except Fault (Option α) :=
  match y with
  | scalar .block "" => .ok none
  | y => if y.isNull then .ok none else (read y).map some

def items : Yaml → Except Fault (List Yaml)
  | seq items => .ok items
  | _ => .error .shape

/-- The entries of a mapping by the text of their keys. Null has none. Those that are not among
`names` are passed over, but must be sound. -/
def fields (names : List String) : Yaml → Except Fault (List (String × Yaml))
  | map entries => do
    (← settle entries).mapM fun (key, value) => do
      let name ← key.text
      if name ∉ names then value.check
      return (name, value)
  | y => if y.isNull then .ok [] else .error .shape

def required (name : String) (fields : List (String × Yaml)) : Except Fault Yaml :=
  match fields.lookup name with
  | some y => .ok y
  | none => .error (.missingField name)

end Yaml

def Declaration.ofYaml (y : Yaml) : Except Yaml.Fault Declaration := do
  let fields ← y.fields ["name", "grammar", "description"]
  let name ← (← Yaml.required "name" fields).text
  let grammar ← (← Yaml.required "grammar" fields).text
  let description ← ((fields.lookup "description").getD Yaml.null).optional Yaml.text
  return ⟨name, grammar, description⟩

def Config.ofYaml (y : Yaml) : Except Yaml.Fault Config := do
  let fields ← y.fields ["commands"]
  let commands ← ((fields.lookup "commands").getD Yaml.null).optional fun list => do
    (← list.items).mapM Declaration.ofYaml
  return ⟨commands⟩

def Yaml.readConfig : ConfigReader := fun text =>
  (Yaml.document text >>= Config.ofYaml).mapError Yaml.Fault.message

end CommandGrammar
