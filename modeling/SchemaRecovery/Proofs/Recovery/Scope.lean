import SchemaRecovery.Proofs.Recovery.Steps

set_option autoImplicit false

namespace SchemaRecovery.Recovery

open Script (Node)
open Schema (Definition Member Module)

def declares (modules : List Module) (name key : String) : Bool :=
  (modules.reverse.find? fun module => module.name = name).any (·.defines key)

structure Alike (a b : Scope) : Prop where
  settings : a.settings = b.settings
  moduleName : a.module.name = b.module.name
  defines : ∀ key, a.module.defines key = b.module.defines key
  ofLocalName : ∀ localName,
    (a.module.ofLocalName? localName).map (·.name) = (b.module.ofLocalName? localName).map (·.name)
  loadedDefines : ∀ localName key, a.loadedDefines localName key = b.loadedDefines localName key

theorem defines_binding (module : Module) (key : String) :
    module.defines key = (bindings module).any fun binding => binding.1 = key := by
  simp [Module.defines, bindings, List.any_map, Function.comp_def]

theorem of_local_name_binding (module : Module) (localName : String) :
    (module.ofLocalName? localName).map (·.name) =
      ((bindings module).find? fun binding => binding.2 = some localName).map (·.1) := by
  simp [Module.ofLocalName?, bindings, List.find?_map, Function.comp_def, Option.map_map]

theorem owner_name_binding (table : SpecTable) (module : Module) :
    (table.owner? module).map (·.name) = table.target.name?.bind fun localName =>
      ((bindings module).find? fun binding => binding.2 = some localName).map (·.1) := by
  simp only [SpecTable.owner?, Option.bind_eq_bind, Option.map_bind, Function.comp_def, of_local_name_binding]

theorem alike_of_bindings (a b : Scope) (settings : a.settings = b.settings) (name : a.module.name = b.module.name)
    (loads : a.module.loads = b.module.loads) (same : bindings a.module = bindings b.module)
    (around : ∀ name key, declares a.modules name key = declares b.modules name key) : Alike a b where
  settings := settings
  moduleName := name
  defines key := by rw [defines_binding, defines_binding, same]
  ofLocalName localName := by rw [of_local_name_binding, of_local_name_binding, same]
  loadedDefines localName key := by
    have found : a.module.loadOf? localName = b.module.loadOf? localName := by
      rw [Module.loadOf?, Module.loadOf?, loads]
    rw [Scope.loadedDefines, Scope.loadedDefines, found]
    cases b.module.loadOf? localName with
    | none => rfl
    | some load =>
        have there : (a.module? load.target).any (·.defines key) = (b.module? load.target).any (·.defines key) :=
          around load.target key
        simp only [settings, there]

section
variable (a b : Scope) (alike : Alike a b)
include alike

theorem resolve_member_alike (target : Node) (property : String) (enumField : Bool) (whole : String) :
    resolveMember a target property enumField whole = resolveMember b target property enumField whole := by
  simp only [resolveMember, alike.settings, alike.defines, alike.loadedDefines]

theorem resolve_reference_alike (reference : Option Node) (enumField : Bool) :
    resolveReference a reference enumField = resolveReference b reference enumField := by
  unfold resolveReference
  split
  · rfl
  · rename_i localName
    have named := alike.ofLocalName localName
    cases left : a.module.ofLocalName? localName <;> cases right : b.module.ofLocalName? localName <;>
      simp_all
  · simp only [resolve_member_alike a b alike]
  · rfl

theorem resolve_map_type_alike (element : Option Node) : resolveMapType a element = resolveMapType b element := by
  have referred : resolveMapType.ofReference a element = resolveMapType.ofReference b element := by
    simp only [resolveMapType.ofReference, resolve_reference_alike a b alike]
  simp only [resolveMapType, alike.settings, referred]

theorem resolve_map_alike (reference : Option Node) : resolveMap a reference = resolveMap b reference := by
  unfold resolveMap
  split
  · simp only [resolve_map_type_alike a b alike]
  · rfl

theorem resolve_type_alike (entry : FieldEntry) : resolveType a entry = resolveType b entry := by
  simp only [resolveType, alike.settings, resolve_map_alike a b alike, resolve_reference_alike a b alike]

theorem warn_alike (kind message definition : String) (field : Option String) :
    a.warn kind message definition field = b.warn kind message definition field := by
  simp only [Scope.warn, alike.moduleName]

theorem resolve_entry_alike (definition : String) (property : KeyedProperty) :
    resolveEntry a definition property = resolveEntry b definition property := by
  simp only [resolveEntry, resolveField, fieldNotices, alike.settings, resolve_type_alike a b alike,
    warn_alike a b alike]

theorem group_oneofs_alike (definition : String) (table : List Node) (members : List Member) :
    groupOneofs a definition table members = groupOneofs b definition table members := by
  have element : groupElement a definition = groupElement b definition := by
    funext group grouping element
    simp only [groupElement, warn_alike a b alike]
  have property : groupProperty a definition = groupProperty b definition := by
    funext groups property
    simp only [groupProperty, element, warn_alike a b alike]
  simp only [groupOneofs, property]

theorem resolve_members_alike (definition : String) (properties : List Node) :
    resolveMembers a definition properties = resolveMembers b definition properties := by
  have entry : resolveEntry a definition = resolveEntry b definition :=
    funext (resolve_entry_alike a b alike definition)
  have keyless : keylessNotices a definition = keylessNotices b definition := by
    funext property
    simp only [keylessNotices, warn_alike a b alike]
  have constraint : applyConstraint a definition = applyConstraint b definition := by
    funext state constraint
    simp only [applyConstraint, alike.settings, group_oneofs_alike a b alike]
  simp only [resolveMembers, alike.settings, entry, keyless, constraint]

theorem resolve_table_alike (definition : Definition) (properties : List Node) :
    resolveTable a definition properties = resolveTable b definition properties := by
  simp only [resolveTable, resolve_members_alike a b alike]

end

end SchemaRecovery.Recovery
