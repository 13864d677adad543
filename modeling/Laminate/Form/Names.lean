import Laminate.Schema.Message
import Laminate.Text.Words

/-! What a field is called in each layer: identifiers and serialized keys. -/
namespace Laminate.Form

open Laminate.Text Laminate.Schema

/-- A name cased as a serialized key. -/
def serializedKey (name : String) : Naming → String
  | .snake => snakeCase name
  | .camel => lowerCamelCase name

/-- A text that says something. -/
def said (text : String) : Option String := if text.isEmpty then none else some text

structure FieldNames where
  /-- Identifier in the domain struct and in the inbound struct. -/
  domain : String
  /-- Identifier in the outbound struct. -/
  outbound : String
  /-- Key in the inbound layer. -/
  inbound : String
  deriving Repr, DecidableEq, Inhabited

def domainName (field : Field) : String :=
  match field.options.domain.bind fun o => said o.name with
  | some name => upperCamelCase name
  | none => field.goName

def FieldNames.of (message : Message) (field : Field) : FieldNames where
  domain := domainName field
  outbound := field.goName
  inbound :=
    serializedKey ((field.options.inbound.bind fun o => said o.name).getD (domainName field))
      (message.naming .inbound)

structure FieldKeys where
  domain : String
  inbound : String
  outbound : String
  deriving Repr, DecidableEq, Inhabited

def FieldKeys.of (message : Message) (field : Field) (names : FieldNames) : FieldKeys where
  domain := serializedKey names.domain (message.naming .domain)
  inbound := names.inbound
  outbound := (field.options.outbound.bind fun o => said o.name).getD
    (serializedKey names.outbound (message.naming .outbound))

end Laminate.Form
