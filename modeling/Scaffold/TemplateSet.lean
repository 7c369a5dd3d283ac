import Scaffold.GenerationError
import Scaffold.Stencil.Fill
import Scaffold.TableData

/-!
# Template sets

The templates of a project, in the order of their names, together with the stencils of their bodies
and directives. Stencils are registered under keys: a body under the name of its template, a
directive under that name followed by the keyword of the directive. A key that is registered again
stands for the later stencil, and a template that is added again replaces the earlier one in its
place.
-/

namespace Scaffold

/-- A stencil and the text it was read from. -/
structure RegisteredStencil where
  source : Text
  stencil : Stencil
  isReading : Stencil.ofSource? source = some stencil

/-- The stencil of a text, with the text. -/
def RegisteredStencil.ofSource? (source : Text) : Option RegisteredStencil :=
  match reading : Stencil.ofSource? source with
  | some stencil => some ⟨source, stencil, reading⟩
  | none => none

/-- Templates with their registered stencils. -/
structure TemplateSet where
  /-- The templates, each name once. -/
  templates : List Template
  /-- The registered stencils, the latest first. -/
  registered : List (Text × RegisteredStencil)
  /-- Whether mentioning unknown data is an error. -/
  strict : Bool

namespace TemplateSet

/-- The set without templates. -/
def empty (strict : Bool) : TemplateSet :=
  ⟨[], [], strict⟩

/-- The template of this name. -/
def get? (set : TemplateSet) (name : Text) : Option Template :=
  set.templates.find? (·.name == name)

/-- The stencil registered under a key. -/
def registered? (set : TemplateSet) (key : Text) : Option RegisteredStencil :=
  set.registered.lookup key

/-- The key of a directive of a template. -/
def directiveKey (template : Text) (directive : Directive) : Text :=
  template ++ directive.keyword

/-- The set with the stencil of a text registered under a key, for a template. -/
def register
    (set : TemplateSet)
    (template key source : Text) :
    Except GenerationError TemplateSet :=
  match RegisteredStencil.ofSource? source with
  | some stencil => .ok { set with registered := (key, stencil) :: set.registered }
  | none => .error (.templateMalformed template)

/-- The set with the stencil of a directive registered, if the template has the directive. -/
def registerDirective
    (set : TemplateSet)
    (template : Template)
    (directive : Directive) :
    Except GenerationError TemplateSet :=
  match template.directive directive with
  | some source => set.register template.name (directiveKey template.name directive) source
  | none => .ok set

/-- The templates with one of them added at the end, or in the place of the one of its name. -/
def placed (template : Template) : List Template → List Template
  | [] => [template]
  | other :: others =>
    if other.name = template.name then template :: others else other :: placed template others

/-- The set with a template added. -/
def insert
    (set : TemplateSet)
    (template : Template) :
    Except GenerationError TemplateSet := do
  let set ← set.register template.name template.name template.body
  let set ← set.registerDirective template .path
  let set ← set.registerDirective template .fileName
  .ok { set with templates := placed template set.templates }

/-- The template of a source. -/
def parse (name source : Text) : Except GenerationError Template :=
  match Template.ofSource? name source with
  | some template => .ok template
  | none => .error (.templateWithoutBody name)

/-- The templates of sources, all of which are read. -/
def parseAll : List (Text × Text) → Except GenerationError (List Template)
  | [] => .ok []
  | (name, source) :: others => do
    let template ← parse name source
    let templates ← parseAll others
    .ok (template :: templates)

/-- The set with templates added one after the other. -/
def insertAll (set : TemplateSet) : List Template → Except GenerationError TemplateSet
  | [] => .ok set
  | template :: others => do
    let set ← set.insert template
    set.insertAll others

/-- Templates in the order of their names. Templates of one name keep their order. -/
def ordered (templates : List Template) : List Template :=
  templates.mergeSort fun left right => Text.precedes left.name right.name

/-- The set of named sources, in the order of their names. -/
def ofSources
    (strict : Bool)
    (sources : List (Text × Text)) :
    Except GenerationError TemplateSet := do
  let templates ← parseAll sources
  (empty strict).insertAll (ordered templates)

/-- What the stencils of a set are filled with. -/
def filling (set : TemplateSet) (data : TableData) : Stencil.Filling where
  stencils key := (set.registered? key).map (·.stencil)
  strict := set.strict
  root := data.toData

/-- The text of the stencil registered under a key, filled with the data of a table. -/
def fillKey (set : TemplateSet) (data : TableData) (key : Text) : Except Stencil.Failure Text :=
  match set.registered? key with
  | some registered => Stencil.fill (set.filling data) key registered.stencil
  | none => .error (.unknownStencil key)

/-- The rendered body of a template. -/
def renderBody
    (set : TemplateSet)
    (template : Template)
    (data : TableData) :
    Except GenerationError Text :=
  match set.fillKey data template.name with
  | .ok text => .ok text
  | .error cause => .error (.bodyFailed template.name data.tableName cause)

/-- The rendered directive of a template, if the template has it. -/
def renderDirective
    (set : TemplateSet)
    (template : Template)
    (directive : Directive)
    (data : TableData) :
    Except GenerationError (Option Text) :=
  match template.directive directive with
  | none => .ok none
  | some _ =>
    match set.fillKey data (directiveKey template.name directive) with
    | .ok text => .ok (some text)
    | .error cause => .error (.directiveFailed template.name directive cause)

end TemplateSet

end Scaffold
