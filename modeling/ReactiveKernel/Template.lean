import ReactiveKernel.Fault

/-!
# Templates

A template says how a closure is set up: host code that wires the closure itself, and call
sites for children with host code that wires each to its parent. Host code is kept as a
reference of a type `κ` that only the host can interpret.
-/

namespace ReactiveKernel

/-- A place of a template where a child is made. -/
structure CallSite (κ : Type) where
  /-- Template of the child. -/
  template : String
  /-- Host code that wires the child to its parent. -/
  binding : Option κ

/-- The recipe of a closure. -/
structure Template (κ : Type) where
  /-- Host code that wires the closure itself. -/
  internal : Option κ
  /-- Call sites that are made together with the closure, in order. -/
  topChildren : List Nat
  /-- All call sites by index. -/
  callSites : Std.ExtTreeMap Nat (CallSite κ)

variable {κ : Type}

namespace CallSite

/-- A call site without host code. -/
def ofTemplate (template : String) : CallSite κ := ⟨template, none⟩

/-- The call site with host code. -/
def withBinding (site : CallSite κ) (binding : κ) : CallSite κ :=
  { site with binding := some binding }

/-- A call site in constructor notation. -/
def term (site : CallSite κ) : Text.Term :=
  .record "CallSite" [("template", .text site.template), ("binding", .bool site.binding.isSome)]
    false

end CallSite

namespace Template

/-- A template that sets nothing up. -/
def empty : Template κ := ⟨none, [], ∅⟩

/-- The template with host code for the closure itself. -/
def withInternal (t : Template κ) (code : κ) : Template κ := { t with internal := some code }

/-- The template with a call site that is made on demand. -/
def withCallSite (t : Template κ) (index : Nat) (site : CallSite κ) : Template κ :=
  { t with callSites := t.callSites.insert index site }

/-- The template with a call site that is made together with the closure. An index keeps the
place where it was first declared. -/
def withChild (t : Template κ) (index : Nat) (site : CallSite κ) : Template κ :=
  { t with
    topChildren := if index ∈ t.topChildren then t.topChildren else t.topChildren ++ [index]
    callSites := t.callSites.insert index site }

/-- A template in constructor notation. -/
def term (t : Template κ) : Text.Term :=
  .record "TemplateMeta"
    [("internal_binding", .bool t.internal.isSome),
     ("top_children", .list (t.topChildren.map .nat)),
     ("call_sites", .map (t.callSites.toList.map fun (index, site) => (.nat index, site.term)))]
    false

end Template

/-- The templates known to a kernel, by their full names. -/
structure TemplateLibrary (κ : Type) where
  /-- Template of each name. -/
  templates : Std.ExtTreeMap String (Template κ)

namespace TemplateLibrary

/-- No templates. -/
def empty : TemplateLibrary κ := ⟨∅⟩

/-- The library with one template added or replaced. -/
def insert (lib : TemplateLibrary κ) (name : String) (t : Template κ) : TemplateLibrary κ :=
  ⟨lib.templates.insert name t⟩

/-- The template of a name. -/
def get? (lib : TemplateLibrary κ) (name : String) : Option (Template κ) := lib.templates[name]?

/-- The template of a name, which must be known. -/
def require (lib : TemplateLibrary κ) (name : String) : Except Fault (Template κ) :=
  match lib.get? name with
  | some t => .ok t
  | none => .error (.unknownTemplate name)

/-- The names of all templates in ascending order. -/
def names (lib : TemplateLibrary κ) : List String := lib.templates.keys

/-- Number of templates. -/
def size (lib : TemplateLibrary κ) : Nat := lib.templates.size

/-- Whether a full name is the entry name or ends in it after a dot. -/
def matchesEntry (entry name : String) : Bool :=
  name == entry || ('.' :: entry.toList).isSuffixOf name.toList

/-- The one template that an entry name stands for. -/
def resolveEntry (lib : TemplateLibrary κ) (entry : String) : Except Fault String :=
  match lib.names.filter (matchesEntry entry) with
  | [] => .error (.noEntryTemplate entry)
  | [only] => .ok only
  | many => .error (.ambiguousEntryTemplate entry many)

/-- A library in constructor notation. -/
def term (lib : TemplateLibrary κ) : Text.Term :=
  .record "MetadataRegistry" [("templates", .list (lib.names.map .text))] false

end TemplateLibrary

end ReactiveKernel
