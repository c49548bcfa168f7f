import ShellTemplate.Definition
import ShellTemplate.Text.Lowercase

namespace ShellTemplate

namespace Parameter

def normalized? (p : Parameter) : Option Parameter :=
  (Text.trimmed? p.name).map fun name => { p with name, description := Text.trim p.description }

end Parameter

namespace CommandOption

def normalized? (o : CommandOption) : Option CommandOption :=
  let o := { o with
    flag? := o.flag?.bind Text.trimmed?
    shortFlag? := o.shortFlag?.bind Text.trimmed?
    longFlag? := o.longFlag?.bind Text.trimmed?
    description := Text.trim o.description }
  if o.primaryFlag?.isSome then some o else none

end CommandOption

namespace Definition

/-- The definition without blanks around its texts. Tags are in lowercase and each stands once; blank
entries, parameters without a name and options without a flag are left out. -/
def normalized (d : Definition) : Definition :=
  { d with
    name := Text.trim d.name
    description := Text.trim d.description
    command := Text.trim d.command
    category? := d.category?.bind Text.trimmed?
    tags := Text.distinct ((d.tags.map fun tag => Text.lowercase (Text.trim tag)).filter
      fun tag => !tag.isEmpty)
    parameters := d.parameters.filterMap (·.normalized?)
    options := d.options.filterMap (·.normalized?)
    commonCommands := d.commonCommands.filterMap Text.trimmed? }

end Definition

end ShellTemplate
