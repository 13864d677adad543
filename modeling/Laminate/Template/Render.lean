import Laminate.Companion.Struct
import Laminate.Template.Layers

/-! The files written for a plan. -/
namespace Laminate

namespace Template

open Form

/-- Whether a template has something to say about a plan. -/
def hasContent (plan : Plan) : Template → Bool
  | enums => !plan.enums.isEmpty
  | domain | domainConvert | companion => !plan.domainMessages.isEmpty
  | outbound => !plan.outboundMessages.isEmpty
  | inbound => !plan.inboundMessages.isEmpty
  | http => !plan.methods.isEmpty
  | fixtures => !plan.settings.strict

/-- Whether a template's file is written for a plan. -/
def isWritten (plan : Plan) (t : Template) : Bool :=
  t.isAvailable plan.settings && t.hasContent plan

/-- The text of a template's file. -/
def text (plan : Plan) : Template → Except GenError String
  | companion => Companion.fileText plan
  | t => .ok (sourceFile plan t).text

end Template

/-- A file to write. -/
structure OutputFile where
  name : String
  content : String
  deriving Repr, DecidableEq, Inhabited

namespace Form.Plan

/-- The templates whose files are written, in order. -/
def written (plan : Plan) : List Template := Template.all.filter (·.isWritten plan)

/-- The files of a plan, in the order of their templates. -/
def files (plan : Plan) : Except GenError (List OutputFile) :=
  plan.written.mapM fun t => (t.text plan).map (⟨t.outputName plan.fileName, ·⟩)

end Form.Plan

end Laminate
