import Beanwright.Generation

/-!
# Inspecting a declared class

An inspection finds out whether a class can be generated, without writing anything, and lists what
the class will offer.
-/

namespace Beanwright

/-- The line about a property in a report. -/
def Member.summary (member : Member) : Text :=
  member.property.name ++ " (".toList ++ member.names.getter ++ ['/'] ++ member.names.setter ++
    "): ".toList ++ Text.joined ", ".toList (member.property.guards.map Guard.label) ++
    (if member.property.immutable then " [immutable]".toList else [])

/-- What is found out about a declared class. -/
structure Inspection where
  /-- The class name. -/
  className : Text
  /-- The path of the bean. -/
  bean : Text
  /-- The properties with their names. -/
  members : List Member

namespace Inspection

/-- Inspects a declared class: every property must have an identifier, and the text of the class
must have balanced braces. -/
def ofRegistry (registry : Registry) (bean : Text) : Except GenerationError Inspection :=
  match registry.members with
  | .error cause => .error (.undeclared cause)
  | .ok members =>
    match ClassText.ofRegistry registry with
    | .error cause => .error (.assembly cause)
    | .ok pieces =>
      match Layout.run ⟨.standard, true⟩ pieces.render with
      | .error cause => .error (.malformed cause)
      | .ok _ => .ok ⟨pieces.className, bean, members⟩

/-- The report on an inspection. -/
def report (inspection : Inspection) : List ReportLine :=
  [.headline "Bean is valid!".toList,
    .detail "name".toList inspection.className,
    .detail "bean".toList inspection.bean,
    .detail "properties".toList (Text.ofNat inspection.members.length)] ++
    inspection.members.map fun member => .item member.summary

end Inspection

end Beanwright
